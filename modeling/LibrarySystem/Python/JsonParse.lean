import LibrarySystem.Python.Json

/-!
# `json.loads`

The reader is the strict one of the standard library: raw control characters
and trailing text are refused, a later duplicate of a key replaces the earlier
value, and an escaped high surrogate followed by an escaped low one is read as
one code point.  The last rule is why rendering and reading back is not the
identity on every text, only on text without such a split pair.
-/

namespace LibrarySystem

namespace PyStr

/-- A high surrogate directly followed by a low one. -/
def hasSplitPair : PyStr → Bool
  | [] => false
  | [_] => false
  | c :: d :: rest =>
      (c.isHighSurrogate && d.isLowSurrogate) || hasSplitPair (d :: rest)

end PyStr

namespace Json

open CodePoint

def hexValue (c : CodePoint) : Option ℕ :=
  if 0x30 ≤ c.val ∧ c.val ≤ 0x39 then some (c.val - 0x30)
  else if 0x61 ≤ c.val ∧ c.val ≤ 0x66 then some (c.val - 0x57)
  else if 0x41 ≤ c.val ∧ c.val ≤ 0x46 then some (c.val - 0x37)
  else none

def hex4Value (a b c d : CodePoint) : Option CodePoint := do
  let w ← hexValue a
  let x ← hexValue b
  let y ← hexValue c
  let z ← hexValue d
  pure (Fin.ofNat 0x110000 (((w * 16 + x) * 16 + y) * 16 + z))

/-- The letter after a backslash, other than `u`. -/
def unescapeShort (c : CodePoint) : Option CodePoint :=
  if c.val = 0x22 then some quote
  else if c.val = 0x5C then some backslash
  else if c.val = 0x2F then some 0x2F
  else if c.val = 0x62 then some 0x08
  else if c.val = 0x66 then some 0x0C
  else if c.val = 0x6E then some 0x0A
  else if c.val = 0x72 then some 0x0D
  else if c.val = 0x74 then some 0x09
  else none

/-- A code point of a string literal and whether it was a `\u` escape. -/
structure StringUnit where
  escaped : Bool
  codePoint : CodePoint
deriving DecidableEq

/-- The units up to the closing quote, and the text after it. -/
def scanUnits : PyStr → Option (List StringUnit × PyStr)
  | [] => none
  | c :: rest =>
      if c = quote then some ([], rest)
      else if c = backslash then
        match rest with
        | [] => none
        | letter :: rest =>
            if letter.val = 0x75 then
              match rest with
              | h1 :: h2 :: h3 :: h4 :: rest => do
                  let unit ← hex4Value h1 h2 h3 h4
                  let scanned ← scanUnits rest
                  pure (⟨true, unit⟩ :: scanned.1, scanned.2)
              | _ => none
            else do
              let unit ← unescapeShort letter
              let scanned ← scanUnits rest
              pure (⟨false, unit⟩ :: scanned.1, scanned.2)
      else if c.val < 0x20 then none
      else do
        let scanned ← scanUnits rest
        pure (⟨false, c⟩ :: scanned.1, scanned.2)

def surrogatePair (high low : CodePoint) : CodePoint :=
  Fin.ofNat 0x110000
    (0x10000 + (high.val - 0xD800) * 1024 + (low.val - 0xDC00))

def mergeUnits : List StringUnit → PyStr
  | [] => []
  | [unit] => [unit.codePoint]
  | first :: second :: rest =>
      if first.escaped && second.escaped && first.codePoint.isHighSurrogate &&
          second.codePoint.isLowSurrogate then
        surrogatePair first.codePoint second.codePoint :: mergeUnits rest
      else first.codePoint :: mergeUnits (second :: rest)

/-- A string literal after its opening quote. -/
def scanString (text : PyStr) : Option (PyStr × PyStr) := do
  let scanned ← scanUnits text
  pure (mergeUnits scanned.1, scanned.2)

def isWhitespace (c : CodePoint) : Bool :=
  c.val == 0x20 || c.val == 0x09 || c.val == 0x0A || c.val == 0x0D

def skipWhitespace (text : PyStr) : PyStr := text.dropWhile isWhitespace

/-- Drop a literal prefix. -/
def expect : PyStr → PyStr → Option PyStr
  | [], text => some text
  | _ :: _, [] => none
  | c :: literal, d :: text => if c = d then expect literal text else none

/-! ## Numbers -/

def natOfDigits (digits : PyStr) : ℕ :=
  digits.foldl (fun n c => n * 10 + (c.val - 0x30)) 0

/-- The integer part: a single zero, or digits without a leading zero. -/
def scanIntegerPart (text : PyStr) : Option (PyStr × PyStr) :=
  match text with
  | [] => none
  | c :: rest =>
      if c.val = 0x30 then some ([c], rest)
      else if c.isDigit then
        some (c :: rest.takeWhile isDigit, rest.dropWhile isDigit)
      else none

def scanFraction (text : PyStr) : PyStr × PyStr :=
  match text with
  | dot :: d :: rest =>
      if dot.val = 0x2E && d.isDigit then
        (dot :: d :: rest.takeWhile isDigit, rest.dropWhile isDigit)
      else ([], text)
  | _ => ([], text)

def scanExponent (text : PyStr) : PyStr × PyStr :=
  match text with
  | e :: rest =>
      if e.val = 0x65 || e.val = 0x45 then
        match rest with
        | [] => ([], text)
        | c :: tail =>
            if c.isDigit then
              (e :: c :: tail.takeWhile isDigit, tail.dropWhile isDigit)
            else if c.val = 0x2B || c.val = 0x2D then
              match tail with
              | [] => ([], text)
              | d :: tail =>
                  if d.isDigit then
                    (e :: c :: d :: tail.takeWhile isDigit,
                      tail.dropWhile isDigit)
                  else ([], text)
            else ([], text)
      else ([], text)
  | [] => ([], text)

def minus : CodePoint := 0x2D

section Parse

variable (parseFloat : PyStr → BitVec 64)

def scanUnsigned (negative : Bool) (text : PyStr) : Option (Json × PyStr) := do
  let integer ← scanIntegerPart text
  let fraction := scanFraction integer.2
  let exponent := scanExponent fraction.2
  let sign : PyStr := if negative then [minus] else []
  if fraction.1 = [] ∧ exponent.1 = [] then
    let magnitude : ℤ := natOfDigits integer.1
    pure (.int (if negative then -magnitude else magnitude), integer.2)
  else
    pure (.float (parseFloat (sign ++ integer.1 ++ fraction.1 ++ exponent.1)),
      exponent.2)

def scanNumber (text : PyStr) : Option (Json × PyStr) :=
  match text with
  | [] => none
  | c :: rest =>
      if c = minus then
        match expect (py "Infinity") rest with
        | some tail => some (.float (parseFloat (py "-Infinity")), tail)
        | none => scanUnsigned parseFloat true rest
      else scanUnsigned parseFloat false (c :: rest)

/-- A `dict` keeps the place of a key's first use and its last value. -/
def insertPair (name : PyStr) (value : Json) :
    List (PyStr × Json) → List (PyStr × Json)
  | [] => [(name, value)]
  | (key, old) :: rest =>
      if key = name then (name, value) :: rest
      else (key, old) :: insertPair name value rest

def buildDict (pairs : List (PyStr × Json)) : List (PyStr × Json) :=
  pairs.foldl (fun members pair => insertPair pair.1 pair.2 members) []

mutual

/-- `scan_once`; the fuel bounds the characters still to be read. -/
def parseValue : ℕ → PyStr → Option (Json × PyStr)
  | 0, _ => none
  | _ + 1, [] => none
  | fuel + 1, c :: rest =>
      if c = quote then do
        let scanned ← scanString rest
        pure (.str scanned.1, scanned.2)
      else if c.val = 0x7B then
        match skipWhitespace rest with
        | [] => none
        | d :: tail =>
            if d.val = 0x7D then some (.obj [], tail)
            else do
              let parsed ← parseMembers fuel (d :: tail)
              pure (.obj (buildDict parsed.1), parsed.2)
      else if c.val = 0x5B then
        match skipWhitespace rest with
        | [] => none
        | d :: tail =>
            if d.val = 0x5D then some (.arr [], tail)
            else do
              let parsed ← parseItems fuel (d :: tail)
              pure (.arr parsed.1, parsed.2)
      else if c.val = 0x6E then
        (expect (py "ull") rest).map fun tail => (.null, tail)
      else if c.val = 0x74 then
        (expect (py "rue") rest).map fun tail => (.bool true, tail)
      else if c.val = 0x66 then
        (expect (py "alse") rest).map fun tail => (.bool false, tail)
      else if c.val = 0x4E then
        (expect (py "aN") rest).map fun tail =>
          (.float (parseFloat (py "NaN")), tail)
      else if c.val = 0x49 then
        (expect (py "nfinity") rest).map fun tail =>
          (.float (parseFloat (py "Infinity")), tail)
      else scanNumber parseFloat (c :: rest)

def parseItems : ℕ → PyStr → Option (List Json × PyStr)
  | 0, _ => none
  | fuel + 1, text => do
      let parsed ← parseValue fuel text
      match skipWhitespace parsed.2 with
      | [] => none
      | c :: rest =>
          if c.val = 0x5D then pure ([parsed.1], rest)
          else if c.val = 0x2C then do
            let tail ← parseItems fuel (skipWhitespace rest)
            pure (parsed.1 :: tail.1, tail.2)
          else none

def parseMembers : ℕ → PyStr → Option (List (PyStr × Json) × PyStr)
  | 0, _ => none
  | _ + 1, [] => none
  | fuel + 1, opening :: text =>
      if opening = quote then do
        let name ← scanString text
        match skipWhitespace name.2 with
        | [] => none
        | colon :: rest =>
            if colon.val = 0x3A then do
              let parsed ← parseValue fuel (skipWhitespace rest)
              match skipWhitespace parsed.2 with
              | [] => none
              | c :: rest =>
                  if c.val = 0x7D then pure ([(name.1, parsed.1)], rest)
                  else if c.val = 0x2C then do
                    let tail ← parseMembers fuel (skipWhitespace rest)
                    pure ((name.1, parsed.1) :: tail.1, tail.2)
                  else none
            else none
      else none

end

/-- `json.loads(text)`; `none` is `JSONDecodeError`. -/
def loads (text : PyStr) : Option Json := do
  let start := skipWhitespace text
  let parsed ← parseValue parseFloat (start.length + 1) start
  if skipWhitespace parsed.2 = [] then some parsed.1 else none

end Parse

/-! ## Values that survive the round trip -/

mutual

/-- No float, no text with a split surrogate pair, no repeated key. -/
def faithful : Json → Bool
  | .float _ => false
  | .str value => !PyStr.hasSplitPair value
  | .arr items => faithfulItems items
  | .obj members =>
      faithfulMembers members && decide ((members.map Prod.fst).Nodup)
  | _ => true

def faithfulItems : List Json → Bool
  | [] => true
  | item :: rest => faithful item && faithfulItems rest

def faithfulMembers : List (PyStr × Json) → Bool
  | [] => true
  | (name, value) :: rest =>
      !PyStr.hasSplitPair name && faithful value && faithfulMembers rest

end

mutual

/-- Some text or key of the value has a split surrogate pair; no value that
`json.loads` decodes from UTF-8 bytes does. -/
def hasSplitPair : Json → Bool
  | .str value => PyStr.hasSplitPair value
  | .arr items => hasSplitPairItems items
  | .obj members => hasSplitPairMembers members
  | _ => false

def hasSplitPairItems : List Json → Bool
  | [] => false
  | item :: rest => hasSplitPair item || hasSplitPairItems rest

def hasSplitPairMembers : List (PyStr × Json) → Bool
  | [] => false
  | (name, value) :: rest =>
      PyStr.hasSplitPair name || hasSplitPair value || hasSplitPairMembers rest

end

theorem faithfulMembers_iff (members : List (PyStr × Json)) :
    faithfulMembers members = true ↔
      ∀ member ∈ members,
        PyStr.hasSplitPair member.1 = false ∧ faithful member.2 = true := by
  induction members with
  | nil => simp [faithfulMembers]
  | cons member members ih =>
      obtain ⟨name, value⟩ := member
      simp [faithfulMembers, ih]

theorem hasSplitPair_lookup
    {members : List (PyStr × Json)} (hmembers : hasSplitPairMembers members = false)
    {key : PyStr} {value : Json} (hlookup : lookup key members = some value) :
    hasSplitPair value = false := by
  induction members with
  | nil => simp [lookup] at hlookup
  | cons member members ih =>
      obtain ⟨name, first⟩ := member
      simp only [hasSplitPairMembers, Bool.or_eq_false_iff] at hmembers
      simp only [lookup] at hlookup
      split at hlookup
      · simp only [Option.some.injEq] at hlookup
        rw [← hlookup]
        exact hmembers.1.2
      · exact ih hmembers.2 hlookup

theorem hasSplitPair_of_isAscii
    {s : PyStr} (hs : PyStr.isAscii s = true) :
    PyStr.hasSplitPair s = false := by
  induction s with
  | nil => rfl
  | cons c s ih =>
      simp only [PyStr.isAscii, List.all_cons, Bool.and_eq_true] at hs ih
      cases s with
      | nil => rfl
      | cons d s =>
          have hc := isSurrogate_eq_false_of_isAscii hs.1
          simp only [isSurrogate, Bool.or_eq_false_iff] at hc
          simp [PyStr.hasSplitPair, hc.1, ih hs.2]

/-! ## Strings -/

theorem hexDigit_val (n : ℕ) :
    (hexDigit n).val = if n % 16 < 10 then 0x30 + n % 16 else 0x57 + n % 16 := by
  unfold hexDigit
  split <;>
    · simp only [Fin.val_ofNat]
      omega

theorem hexValue_hexDigit (n : ℕ) : hexValue (hexDigit n) = some (n % 16) := by
  unfold hexValue
  rw [hexDigit_val]
  have hn : n % 16 < 16 := Nat.mod_lt _ (by decide)
  split_ifs <;>
    first
    | omega
    | (simp only [Option.some.injEq]
       omega)

theorem hex4Value_hex4 {n : ℕ} (hn : n < 0x10000) :
    hex4Value (hexDigit (n / 4096)) (hexDigit (n / 256)) (hexDigit (n / 16))
      (hexDigit n) = some (Fin.ofNat 0x110000 n) := by
  have hsum : ((n / 4096 % 16 * 16 + n / 256 % 16) * 16 + n / 16 % 16) * 16 +
      n % 16 = n := by omega
  simp [hex4Value, hexValue_hexDigit, hsum]

/-- The units that the escape of one code point is read as. -/
def unitsOf (c : CodePoint) : List StringUnit :=
  match shortEscape c with
  | some _ => [⟨false, c⟩]
  | none =>
      if 0x20 ≤ c.val ∧ c.val ≤ 0x7E then [⟨false, c⟩]
      else if c.val < 0x10000 then [⟨true, c⟩]
      else
        [⟨true, Fin.ofNat 0x110000 (0xD800 + (c.val - 0x10000) / 1024)⟩,
          ⟨true, Fin.ofNat 0x110000 (0xDC00 + (c.val - 0x10000) % 1024)⟩]

theorem scanUnits_unicodeEscape
    {n : ℕ} (hn : n < 0x10000) {rest : PyStr}
    {scanned : List StringUnit × PyStr} (hscan : scanUnits rest = some scanned) :
    scanUnits (unicodeEscape n ++ rest) =
      some (⟨true, Fin.ofNat 0x110000 n⟩ :: scanned.1, scanned.2) := by
  have hquote : ¬ backslash = quote := by decide
  simp [unicodeEscape, hex4, scanUnits, hquote, hex4Value_hex4 hn, hscan]

theorem shortEscape_cases
    {c letter : CodePoint} (hshort : shortEscape c = some letter) :
    letter.val ≠ 0x75 ∧ unescapeShort letter = some c := by
  unfold shortEscape at hshort
  split_ifs at hshort with h1 h2 h3 h4 h5 h6 h7 <;>
    · simp only [Option.some.injEq] at hshort
      subst letter
      refine ⟨by decide, ?_⟩
      refine congrArg some (Fin.ext (Eq.symm ?_))
      assumption

theorem shortEscape_none
    {c : CodePoint} (hshort : shortEscape c = none) :
    c ≠ quote ∧ c ≠ backslash := by
  constructor <;>
    · rintro rfl
      exact absurd hshort (by decide)

theorem scanUnits_escapeAscii
    (c : CodePoint) {rest : PyStr} {scanned : List StringUnit × PyStr}
    (hscan : scanUnits rest = some scanned) :
    scanUnits (escapeAscii c ++ rest) =
      some (unitsOf c ++ scanned.1, scanned.2) := by
  have hquote : ¬ backslash = quote := by decide
  unfold escapeAscii unitsOf
  cases hshort : shortEscape c with
  | some letter =>
      obtain ⟨hu, hletter⟩ := shortEscape_cases hshort
      simp only [List.cons_append, List.nil_append]
      rw [scanUnits.eq_def]
      simp [hquote, hu, hletter, hscan]
  | none =>
      obtain ⟨hq, hb⟩ := shortEscape_none hshort
      simp only
      split_ifs with hprintable hbasic
      · have hcontrol : ¬ c.val < 0x20 := by omega
        rw [List.singleton_append, scanUnits.eq_def]
        simp [hq, hb, hcontrol, hscan]
      · have hself : Fin.ofNat 0x110000 c.val = c := by simp
        rw [scanUnits_unicodeEscape hbasic hscan, hself]
        rfl
      · have hc := c.isLt
        have hlow : 0xDC00 + (c.val - 0x10000) % 1024 < 0x10000 := by omega
        have hhigh : 0xD800 + (c.val - 0x10000) / 1024 < 0x10000 := by omega
        rw [List.append_assoc, scanUnits_unicodeEscape hhigh
          (scanUnits_unicodeEscape hlow hscan)]
        rfl

theorem scanUnits_renderString (s rest : PyStr) :
    scanUnits (s.flatMap escapeAscii ++ quote :: rest) =
      some (s.flatMap unitsOf, rest) := by
  induction s with
  | nil =>
      rw [List.flatMap_nil, List.nil_append, scanUnits.eq_def]
      simp
  | cons c s ih =>
      simp only [List.flatMap_cons, List.append_assoc]
      exact scanUnits_escapeAscii c ih

theorem unitsOf_cases (c : CodePoint) :
    (∃ escaped, unitsOf c = [⟨escaped, c⟩]) ∨
      ∃ high low : CodePoint,
        unitsOf c = [⟨true, high⟩, ⟨true, low⟩] ∧
          high.isHighSurrogate = true ∧ low.isLowSurrogate = true ∧
          surrogatePair high low = c := by
  unfold unitsOf
  cases hshort : shortEscape c with
  | some letter => exact Or.inl ⟨false, rfl⟩
  | none =>
      simp only
      split_ifs with hprintable hbasic
      · exact Or.inl ⟨false, rfl⟩
      · exact Or.inl ⟨true, rfl⟩
      · refine Or.inr ⟨_, _, rfl, ?_, ?_, ?_⟩
        · have hc := c.isLt
          simp only [isHighSurrogate, Fin.val_ofNat, Bool.and_eq_true,
            decide_eq_true_eq]
          omega
        · have hc := c.isLt
          simp only [isLowSurrogate, Fin.val_ofNat, Bool.and_eq_true,
            decide_eq_true_eq]
          omega
        · have hc := c.isLt
          apply Fin.ext
          simp only [surrogatePair, Fin.val_ofNat]
          omega

/-- The first unit of a text is a low surrogate only if its first code point
is one. -/
theorem unitsOf_head_low
    {c : CodePoint} {unit : StringUnit} {tail : List StringUnit}
    (hunits : unitsOf c = unit :: tail)
    (hlow : unit.codePoint.isLowSurrogate = true) :
    c.isLowSurrogate = true := by
  rcases unitsOf_cases c with ⟨escaped, hsingle⟩ | ⟨high, low, hpair, hhigh, _, _⟩
  · rw [hsingle] at hunits
    simp only [List.cons.injEq] at hunits
    rw [← hunits.1] at hlow
    exact hlow
  · rw [hpair] at hunits
    simp only [List.cons.injEq] at hunits
    rw [← hunits.1] at hlow
    simp only [isHighSurrogate, isLowSurrogate, Bool.and_eq_true,
      decide_eq_true_eq] at hhigh hlow
    omega

theorem mergeUnits_single
    (escaped : Bool) (c : CodePoint) (units : List StringUnit)
    (hnext : ∀ unit tail, units = unit :: tail →
      c.isHighSurrogate = true → unit.codePoint.isLowSurrogate = false) :
    mergeUnits (⟨escaped, c⟩ :: units) = c :: mergeUnits units := by
  cases units with
  | nil => rfl
  | cons unit tail =>
      rw [mergeUnits]
      rw [if_neg]
      intro hpair
      simp only [Bool.and_eq_true] at hpair
      have hfalse := hnext unit tail rfl hpair.1.2
      rw [hfalse] at hpair
      exact Bool.false_ne_true hpair.2

theorem unitsOf_ne_nil (c : CodePoint) : unitsOf c ≠ [] := by
  rcases unitsOf_cases c with ⟨escaped, hsingle⟩ | ⟨high, low, hpair, _⟩
  · simp [hsingle]
  · simp [hpair]

theorem mergeUnits_flatMap
    {s : PyStr} (hs : PyStr.hasSplitPair s = false) :
    mergeUnits (s.flatMap unitsOf) = s := by
  induction s with
  | nil => rfl
  | cons c s ih =>
      have htail : PyStr.hasSplitPair s = false := by
        cases s with
        | nil => rfl
        | cons d s =>
            simp only [PyStr.hasSplitPair, Bool.or_eq_false_iff] at hs
            exact hs.2
      rw [List.flatMap_cons]
      rcases unitsOf_cases c with
        ⟨escaped, hsingle⟩ | ⟨high, low, hpair, hhigh, hlow, hc⟩
      · rw [hsingle, List.singleton_append, mergeUnits_single, ih htail]
        intro unit tail hunits hchigh
        cases s with
        | nil => simp at hunits
        | cons d s =>
            obtain ⟨first, more, hd⟩ := List.exists_cons_of_ne_nil (unitsOf_ne_nil d)
            rw [List.flatMap_cons, hd, List.cons_append] at hunits
            simp only [List.cons.injEq] at hunits
            rw [← hunits.1]
            by_contra hfirst
            have hdlow := unitsOf_head_low hd (by simpa using hfirst)
            simp [PyStr.hasSplitPair, hchigh, hdlow] at hs
      · rw [hpair]
        simp only [List.cons_append, List.nil_append, mergeUnits, hhigh, hlow,
          Bool.and_self, if_true, hc, ih htail]

/-- The text a reader makes of the escapes of `s`: split pairs are joined. -/
def joinText (s : PyStr) : PyStr := mergeUnits (s.flatMap unitsOf)

theorem unitsOf_escaped {c : CodePoint} {unit : StringUnit} (hunit : unit ∈ unitsOf c)
    (hsurrogate : unit.codePoint.isSurrogate = true) : unit.escaped = true := by
  have hrange : 0xD800 ≤ unit.codePoint.val := by
    simp only [isSurrogate, isHighSurrogate, isLowSurrogate, Bool.or_eq_true, Bool.and_eq_true,
      decide_eq_true_eq] at hsurrogate
    omega
  unfold unitsOf at hunit
  cases hshort : shortEscape c with
  | some letter =>
      rw [hshort, List.mem_singleton] at hunit
      subst hunit
      simp only [shortEscape] at hshort
      split_ifs at hshort <;> simp_all
  | none =>
      rw [hshort] at hunit
      simp only at hunit
      split_ifs at hunit with hprintable hbasic
      · rw [List.mem_singleton] at hunit
        subst hunit
        simp only at hrange
        omega
      · rw [List.mem_singleton.mp hunit]
      · simp only [List.mem_cons, List.not_mem_nil, or_false] at hunit
        rcases hunit with rfl | rfl <;> rfl

/-- A text whose surrogates are all escaped is read without a split pair, and it begins
with a low surrogate only if its units do. -/
theorem mergeUnits_hasSplitPair (units : List StringUnit)
    (hunits : ∀ unit ∈ units, unit.codePoint.isSurrogate = true → unit.escaped = true) :
    PyStr.hasSplitPair (mergeUnits units) = false ∧
      ∀ c rest, mergeUnits units = c :: rest → c.isLowSurrogate = true →
        ∃ unit tail, units = unit :: tail ∧ unit.codePoint.isLowSurrogate = true := by
  induction units using mergeUnits.induct with
  | case1 =>
      refine ⟨rfl, ?_⟩
      intro c rest hnil
      cases hnil
  | case2 unit =>
      refine ⟨rfl, ?_⟩
      intro c rest hone hlow
      cases hone
      exact ⟨unit, [], rfl, hlow⟩
  | case3 first second rest hpair ih =>
      obtain ⟨hsplit, -⟩ := ih fun unit hunit =>
        hunits unit (List.mem_cons_of_mem _ (List.mem_cons_of_mem _ hunit))
      rw [mergeUnits, if_pos hpair]
      simp only [Bool.and_eq_true, isHighSurrogate, isLowSurrogate, decide_eq_true_eq] at hpair
      have hval : (surrogatePair first.codePoint second.codePoint).val ≥ 0x10000 := by
        simp only [surrogatePair, Fin.val_ofNat]
        omega
      have hnot : (surrogatePair first.codePoint second.codePoint).isHighSurrogate = false ∧
          (surrogatePair first.codePoint second.codePoint).isLowSurrogate = false := by
        simp only [isHighSurrogate, isLowSurrogate, Bool.and_eq_false_iff, decide_eq_false_iff_not]
        omega
      constructor
      · cases hmerged : mergeUnits rest with
        | nil => rfl
        | cons c tail =>
            rw [PyStr.hasSplitPair, hnot.1, ← hmerged, hsplit]
            rfl
      · intro c tail hcons hlow
        rw [List.cons.injEq] at hcons
        rw [← hcons.1, hnot.2] at hlow
        exact absurd hlow Bool.false_ne_true
  | case4 first second rest hpair ih =>
      obtain ⟨hsplit, hhead⟩ := ih fun unit hunit =>
        hunits unit (List.mem_cons_of_mem _ hunit)
      rw [mergeUnits, if_neg hpair]
      constructor
      · cases hmerged : mergeUnits (second :: rest) with
        | nil => rfl
        | cons c tail =>
            rw [PyStr.hasSplitPair, Bool.or_eq_false_iff, ← hmerged]
            refine ⟨?_, hsplit⟩
            by_contra hboth
            simp only [Bool.not_eq_false, Bool.and_eq_true] at hboth
            obtain ⟨unit, others, hunit, hlow⟩ := hhead c tail hmerged hboth.2
            cases hunit
            have hescaped := hunits first List.mem_cons_self
              (by simp [isSurrogate, hboth.1])
            have hsecond := hunits second (List.mem_cons_of_mem _ List.mem_cons_self)
              (by simp [isSurrogate, hlow])
            exact hpair (by simp [hescaped, hsecond, hboth.1, hlow])
      · intro c tail hcons hlow
        cases hcons
        exact ⟨first, second :: rest, rfl, hlow⟩

theorem joinText_hasSplitPair (s : PyStr) : PyStr.hasSplitPair (joinText s) = false := by
  refine (mergeUnits_hasSplitPair _ ?_).1
  intro unit hunit
  obtain ⟨c, -, hc⟩ := List.mem_flatMap.mp hunit
  exact unitsOf_escaped hc

/-- A text without a split pair is read as it is, and no other. -/
theorem joinText_eq_self_iff (s : PyStr) : joinText s = s ↔ PyStr.hasSplitPair s = false := by
  constructor
  · intro hself
    rw [← hself]
    exact joinText_hasSplitPair s
  · exact mergeUnits_flatMap

theorem scanString_renderString (s rest : PyStr) :
    scanString (s.flatMap escapeAscii ++ quote :: rest) = some (joinText s, rest) := by
  simp [scanString, scanUnits_renderString, joinText]

mutual

/-- The value a reader makes of the rendered one. -/
def join : Json → Json
  | .str value => .str (joinText value)
  | .arr items => .arr (joinItems items)
  | .obj members => .obj (joinMembers members)
  | value => value

def joinItems : List Json → List Json
  | [] => []
  | item :: rest => join item :: joinItems rest

def joinMembers : List (PyStr × Json) → List (PyStr × Json)
  | [] => []
  | (name, value) :: rest => (joinText name, join value) :: joinMembers rest

end

mutual

/-- No float, and no two keys that a reader takes for one. -/
def plain : Json → Bool
  | .float _ => false
  | .arr items => plainItems items
  | .obj members =>
      plainMembers members && decide (((joinMembers members).map Prod.fst).Nodup)
  | _ => true

def plainItems : List Json → Bool
  | [] => true
  | item :: rest => plain item && plainItems rest

def plainMembers : List (PyStr × Json) → Bool
  | [] => true
  | (_, value) :: rest => plain value && plainMembers rest

end

mutual

/-- A faithful value is read back as it is. -/
theorem join_faithful (value : Json) (hvalue : faithful value = true) :
    join value = value ∧ plain value = true := by
  cases value with
  | str s =>
      simp only [faithful, Bool.not_eq_true'] at hvalue
      simp [join, plain, joinText, mergeUnits_flatMap hvalue]
  | arr items =>
      have hitems := joinItems_faithful items hvalue
      simp [join, plain, hitems]
  | obj members =>
      simp only [faithful, Bool.and_eq_true, decide_eq_true_eq] at hvalue
      have hmembers := joinMembers_faithful members hvalue.1
      simp [join, plain, hmembers, hvalue.2]
  | float bits => simp [faithful] at hvalue
  | null | bool _ | int _ => exact ⟨rfl, rfl⟩

theorem joinItems_faithful (items : List Json) (hitems : faithfulItems items = true) :
    joinItems items = items ∧ plainItems items = true := by
  match items with
  | [] => exact ⟨rfl, rfl⟩
  | item :: rest =>
      simp only [faithfulItems, Bool.and_eq_true] at hitems
      have hitem := join_faithful item hitems.1
      have hrest := joinItems_faithful rest hitems.2
      simp [joinItems, plainItems, hitem, hrest]

theorem joinMembers_faithful
    (members : List (PyStr × Json)) (hmembers : faithfulMembers members = true) :
    joinMembers members = members ∧ plainMembers members = true := by
  match members with
  | [] => exact ⟨rfl, rfl⟩
  | (name, value) :: rest =>
      simp only [faithfulMembers, Bool.and_eq_true, Bool.not_eq_true'] at hmembers
      have hvalue := join_faithful value hmembers.1.2
      have hrest := joinMembers_faithful rest hmembers.2
      simp [joinMembers, plainMembers, hvalue, hrest, joinText,
        mergeUnits_flatMap hmembers.1.1]

end

mutual

/-- What a reader makes of any rendered value; `readFloat` is what it makes of the text
of a float. -/
def reread (readFloat : BitVec 64 → BitVec 64) : Json → Json
  | .null => .null
  | .bool value => .bool value
  | .int value => .int value
  | .float bits => .float (readFloat bits)
  | .str value => .str (joinText value)
  | .arr items => .arr (rereadItems readFloat items)
  | .obj members => .obj (buildDict (rereadMembers readFloat members))

def rereadItems (readFloat : BitVec 64 → BitVec 64) : List Json → List Json
  | [] => []
  | item :: rest => reread readFloat item :: rereadItems readFloat rest

def rereadMembers (readFloat : BitVec 64 → BitVec 64) :
    List (PyStr × Json) → List (PyStr × Json)
  | [] => []
  | (name, value) :: rest =>
      (joinText name, reread readFloat value) :: rereadMembers readFloat rest

end

mutual

def floatless : Json → Bool
  | .float _ => false
  | .arr items => floatlessItems items
  | .obj members => floatlessMembers members
  | _ => true

def floatlessItems : List Json → Bool
  | [] => true
  | item :: rest => floatless item && floatlessItems rest

def floatlessMembers : List (PyStr × Json) → Bool
  | [] => true
  | (_, value) :: rest => floatless value && floatlessMembers rest

end

/-! ## Numbers -/

/-- The text after a rendered value: it cannot continue a number. -/
def Delimited (rest : PyStr) : Prop :=
  ∀ c tail, rest = c :: tail → c.isDigit = false ∧ c.val ≠ 0x2E ∧
    c.val ≠ 0x65 ∧ c.val ≠ 0x45

theorem digit_val (n : ℕ) : (digit n).val = 0x30 + n % 10 := by
  simp only [digit, Fin.val_ofNat]
  omega

theorem digit_isDigit (n : ℕ) : (digit n).isDigit = true := by
  simp only [isDigit, digit_val, Bool.and_eq_true, decide_eq_true_eq]
  omega

theorem natOfDigits_reverse
    (digits : List ℕ) (hdigits : ∀ d ∈ digits, d < 10) :
    natOfDigits (digits.reverse.map digit) = Nat.ofDigits 10 digits := by
  induction digits with
  | nil => rfl
  | cons d digits ih =>
      have hd : d % 10 = d := Nat.mod_eq_of_lt (hdigits d (by simp))
      have hrest := ih fun e he => hdigits e (by simp [he])
      unfold natOfDigits at hrest ⊢
      rw [List.reverse_cons, List.map_append, List.foldl_append, hrest,
        Nat.ofDigits_cons]
      simp only [List.map_cons, List.map_nil, List.foldl_cons, List.foldl_nil,
        digit_val, hd]
      omega

theorem natOfDigits_renderNat (n : ℕ) : natOfDigits (renderNat n) = n := by
  unfold renderNat
  split
  · rename_i hn
    subst hn
    decide
  · rw [natOfDigits_reverse _ fun d hd => Nat.digits_lt_base (by decide) hd,
      Nat.ofDigits_digits]

theorem renderNat_all_digit (n : ℕ) : ∀ c ∈ renderNat n, c.isDigit = true := by
  unfold renderNat
  split
  · simp [digit_isDigit]
  · intro c hc
    obtain ⟨d, _, rfl⟩ := List.mem_map.mp hc
    exact digit_isDigit d

theorem renderNat_head
    (n : ℕ) :
    ∃ c tail, renderNat n = c :: tail ∧ c.isDigit = true ∧
      (c.val = 0x30 → tail = []) := by
  by_cases hn : n = 0
  · exact ⟨digit 0, [], by simp [renderNat, hn], digit_isDigit 0, fun _ => rfl⟩
  · have hne : Nat.digits 10 n ≠ [] := Nat.digits_ne_nil_iff_ne_zero.mpr hn
    have hlast := Nat.getLast_digit_ne_zero 10 hn
    have hsmall : (Nat.digits 10 n).getLast hne < 10 :=
      Nat.digits_lt_base (by decide) (List.getLast_mem hne)
    have hsplit := List.dropLast_append_getLast hne
    refine ⟨digit ((Nat.digits 10 n).getLast hne),
      ((Nat.digits 10 n).dropLast.reverse).map digit, ?_, digit_isDigit _, ?_⟩
    · rw [renderNat, if_neg hn]
      conv_lhs => rw [← hsplit]
      simp
    · intro hzero
      rw [digit_val] at hzero
      omega

theorem takeWhile_dropWhile_digits
    {digits rest : PyStr} (hdigits : ∀ c ∈ digits, c.isDigit = true)
    (hrest : Delimited rest) :
    (digits ++ rest).takeWhile isDigit = digits ∧
      (digits ++ rest).dropWhile isDigit = rest := by
  induction digits with
  | nil =>
      cases rest with
      | nil => simp
      | cons c tail =>
          have hc := (hrest c tail rfl).1
          simp [hc]
  | cons d digits ih =>
      have hd := hdigits d (by simp)
      have htail := ih fun c hc => hdigits c (by simp [hc])
      simp [hd, htail.1, htail.2]

theorem scanIntegerPart_renderNat
    (n : ℕ) {rest : PyStr} (hrest : Delimited rest) :
    scanIntegerPart (renderNat n ++ rest) = some (renderNat n, rest) := by
  obtain ⟨c, tail, hrender, hc, hzero⟩ := renderNat_head n
  have hall := renderNat_all_digit n
  rw [hrender] at hall ⊢
  obtain ⟨htake, hdrop⟩ := takeWhile_dropWhile_digits
    (fun d hd => hall d (by simp [hd]) : ∀ d ∈ tail, d.isDigit = true) hrest
  simp only [List.cons_append, scanIntegerPart]
  split
  · rename_i hfirst
    simp [hzero hfirst]
  · simp [htake, hdrop]

theorem scanFraction_delimited {rest : PyStr} (hrest : Delimited rest) :
    scanFraction rest = ([], rest) := by
  match rest with
  | [] => rfl
  | [c] => rfl
  | c :: d :: tail =>
      have hc := (hrest c (d :: tail) rfl).2.1
      simp [scanFraction, hc]

theorem scanExponent_delimited {rest : PyStr} (hrest : Delimited rest) :
    scanExponent rest = ([], rest) := by
  match rest with
  | [] => rfl
  | c :: tail =>
      have hc := (hrest c tail rfl).2.2
      simp [scanExponent, hc.1, hc.2]

section RoundTrip

variable (parseFloat : PyStr → BitVec 64)

theorem scanUnsigned_renderNat
    (negative : Bool) (n : ℕ) {rest : PyStr} (hrest : Delimited rest) :
    scanUnsigned parseFloat negative (renderNat n ++ rest) =
      some (.int (if negative then -(n : ℤ) else n), rest) := by
  simp [scanUnsigned, scanIntegerPart_renderNat n hrest,
    scanFraction_delimited hrest, scanExponent_delimited hrest,
    natOfDigits_renderNat]

theorem scanNumber_renderInt
    (n : ℤ) {rest : PyStr} (hrest : Delimited rest) :
    scanNumber parseFloat (renderInt n ++ rest) = some (.int n, rest) := by
  cases n with
  | ofNat n =>
      obtain ⟨c, tail, hrender, hc, -⟩ := renderNat_head n
      have hminus : c ≠ minus := by
        rintro rfl
        exact absurd hc (by decide)
      have hscan := scanUnsigned_renderNat parseFloat false n hrest
      rw [hrender, List.cons_append] at hscan
      simp only [renderInt, hrender, List.cons_append, scanNumber, hminus,
        if_false, hscan]
      rfl
  | negSucc n =>
      obtain ⟨c, tail, hrender, hc, -⟩ := renderNat_head (n + 1)
      have hinfinity : expect (py "Infinity") (renderNat (n + 1) ++ rest) = none := by
        rw [hrender, List.cons_append]
        have hne : ¬ (⟨0x49, by decide⟩ : CodePoint) = c := by
          rintro rfl
          exact absurd hc (by decide)
        change (if (⟨0x49, by decide⟩ : CodePoint) = c then _ else none) = none
        rw [if_neg hne]
      have hscan :=
        scanUnsigned_renderNat parseFloat true (n + 1) hrest
      have hcons : renderInt (.negSucc n) = minus :: renderNat (n + 1) := rfl
      simp only [hcons, List.cons_append, scanNumber, if_true, hinfinity, hscan]
      rfl

/-! ## Values -/

theorem expect_append (literal rest : PyStr) :
    expect literal (literal ++ rest) = some rest := by
  induction literal with
  | nil => rfl
  | cons c literal ih => simp [expect, ih]

theorem skipWhitespace_append
    {blank text : PyStr} (hblank : blank.all isWhitespace = true) :
    skipWhitespace (blank ++ text) = skipWhitespace text := by
  induction blank with
  | nil => rfl
  | cons c blank ih =>
      simp only [List.all_cons, Bool.and_eq_true] at hblank
      have htail := ih hblank.2
      unfold skipWhitespace at htail ⊢
      simp [hblank.1, htail]

theorem skipWhitespace_cons
    {c : CodePoint} (hc : isWhitespace c = false) (text : PyStr) :
    skipWhitespace (c :: text) = c :: text := by
  simp [skipWhitespace, hc]

/-- Styles whose output is read back: ASCII escapes, and separators that are a
comma and a colon followed by blanks. -/
structure Readable (style : JsonStyle) : Prop where
  ensureAscii : style.ensureAscii = true
  itemSeparator : ∃ blank, style.itemSeparator = py "," ++ blank ∧
    blank.all isWhitespace = true
  keySeparator : ∃ blank, style.keySeparator = py ":" ++ blank ∧
    blank.all isWhitespace = true

theorem readable_compact : Readable .compact :=
  ⟨rfl, ⟨[], rfl, rfl⟩, ⟨[], rfl, rfl⟩⟩

theorem readable_default : Readable .default :=
  ⟨rfl, ⟨py " ", rfl, rfl⟩, ⟨py " ", rfl, rfl⟩⟩

/-- The first code points a rendered value can have. -/
def StartsValue (c : CodePoint) : Prop :=
  isWhitespace c = false ∧ c.val ≠ 0x5D ∧ c.val ≠ 0x7D

theorem startsValue_of_isDigit {c : CodePoint} (hc : c.isDigit = true) :
    StartsValue c := by
  simp only [isDigit, Bool.and_eq_true, decide_eq_true_eq] at hc
  refine ⟨?_, by omega, by omega⟩
  simp only [isWhitespace, Bool.or_eq_false_iff, beq_eq_false_iff_ne]
  omega

theorem renderInt_head (n : ℤ) :
    ∃ c tail, renderInt n = c :: tail ∧ StartsValue c ∧
      (c.isDigit = true ∨ c = minus) := by
  cases n with
  | ofNat n =>
      obtain ⟨c, tail, hrender, hc, -⟩ := renderNat_head n
      exact ⟨c, tail, hrender, startsValue_of_isDigit hc, Or.inl hc⟩
  | negSucc n =>
      exact ⟨minus, renderNat (n + 1), rfl, ⟨by decide, by decide, by decide⟩,
        Or.inr rfl⟩

variable (floatRepr : BitVec 64 → PyStr) {style : JsonStyle}

/-- The text of a float is read as a float. -/
def FloatsRead (readFloat : BitVec 64 → BitVec 64) : Prop :=
  ∀ bits fuel rest, Delimited rest →
    parseValue parseFloat (fuel + 1) (floatRepr bits ++ rest) =
      some (.float (readFloat bits), rest)

variable {readFloat : BitVec 64 → BitVec 64}

/-- Text that is read as a value begins with one. -/
theorem startsValue_of_parseValue {fuel : ℕ} {c : CodePoint} {tail : PyStr}
    (hparse : (parseValue parseFloat fuel (c :: tail)).isSome = true) : StartsValue c := by
  have hnone : ∀ n : ℕ, ∀ hn : n < 0x110000,
      n = 0x20 ∨ n = 0x09 ∨ n = 0x0A ∨ n = 0x0D ∨ n = 0x5D ∨ n = 0x7D →
        (parseValue parseFloat fuel (⟨n, hn⟩ :: tail)).isSome = false := by
    intro n hn hcases
    cases fuel with
    | zero => rfl
    | succ fuel => rcases hcases with rfl | rfl | rfl | rfl | rfl | rfl <;> rfl
  have hnot : ¬ (c.val = 0x20 ∨ c.val = 0x09 ∨ c.val = 0x0A ∨ c.val = 0x0D ∨
      c.val = 0x5D ∨ c.val = 0x7D) := by
    intro hcases
    rw [hnone c.val c.isLt hcases] at hparse
    cases hparse
  simp only [StartsValue, isWhitespace, Bool.or_eq_false_iff, beq_eq_false_iff_ne]
  omega

theorem render_head (style : JsonStyle) (value : Json)
    (hfloats : floatless value = false → FloatsRead parseFloat floatRepr readFloat) :
    ∃ c tail, render floatRepr style value = c :: tail ∧ StartsValue c := by
  have hword : ∀ text : String, ∀ c tail, py text = c :: tail →
      StartsValue c → ∃ c tail, py text = c :: tail ∧ StartsValue c :=
    fun text c tail htext hc => ⟨c, tail, htext, hc⟩
  cases value with
  | null => exact hword "null" _ _ rfl ⟨by decide, by decide, by decide⟩
  | bool b =>
      cases b
      · exact hword "false" _ _ rfl ⟨by decide, by decide, by decide⟩
      · exact hword "true" _ _ rfl ⟨by decide, by decide, by decide⟩
  | int n =>
      obtain ⟨c, tail, hrender, hc, -⟩ := renderInt_head n
      exact ⟨c, tail, hrender, hc⟩
  | float bits =>
      have hread := hfloats rfl bits 0 [] (fun _ _ hnil => (by cases hnil))
      rw [List.append_nil] at hread
      cases htext : floatRepr bits with
      | nil =>
          rw [htext] at hread
          cases hread
      | cons c tail =>
          rw [htext] at hread
          exact ⟨c, tail, htext, startsValue_of_parseValue parseFloat (by rw [hread]; rfl)⟩
  | str s => exact ⟨quote, _, rfl, ⟨by decide, by decide, by decide⟩⟩
  | arr items => exact ⟨_, _, rfl, ⟨by decide, by decide, by decide⟩⟩
  | obj members => exact ⟨_, _, rfl, ⟨by decide, by decide, by decide⟩⟩

theorem renderItems_head
    (style : JsonStyle) (item : Json) (items : List Json)
    (hfloats : floatless item = false → FloatsRead parseFloat floatRepr readFloat) :
    ∃ c tail, renderItems floatRepr style (item :: items) = c :: tail ∧
      StartsValue c := by
  obtain ⟨c, tail, hhead, hc⟩ :=
    render_head parseFloat floatRepr style item hfloats
  cases items with
  | nil => exact ⟨c, tail, by simp [renderItems, hhead], hc⟩
  | cons next items => exact ⟨c, _, by rw [renderItems, hhead, List.cons_append], hc⟩

theorem renderMembers_head
    (style : JsonStyle) (member : PyStr × Json) (members : List (PyStr × Json)) :
    ∃ tail, renderMembers floatRepr style (member :: members) = quote :: tail := by
  cases members with
  | nil => exact ⟨_, rfl⟩
  | cons next members => exact ⟨_, rfl⟩

theorem delimited_of_mark
    (c : CodePoint) (hc : c.val = 0x2C ∨ c.val = 0x5D ∨ c.val = 0x7D)
    (rest : PyStr) :
    Delimited (c :: rest) := by
  intro d tail heq
  simp only [List.cons.injEq] at heq
  obtain ⟨rfl, rfl⟩ := heq
  simp only [isDigit, Bool.and_eq_false_iff, decide_eq_false_iff_not]
  omega

theorem insertPair_notMem
    {name : PyStr} {value : Json} {members : List (PyStr × Json)}
    (hname : name ∉ members.map Prod.fst) :
    insertPair name value members = members ++ [(name, value)] := by
  induction members with
  | nil => rfl
  | cons member rest ih =>
      simp only [List.map_cons, List.mem_cons, not_or] at hname
      simp [insertPair, Ne.symm hname.1, ih hname.2]

theorem buildDict_eq_self
    {members : List (PyStr × Json)} (hnodup : (members.map Prod.fst).Nodup) :
    buildDict members = members := by
  have hfold : ∀ rest built : List (PyStr × Json),
      ((built ++ rest).map Prod.fst).Nodup →
        rest.foldl (fun members pair => insertPair pair.1 pair.2 members) built =
          built ++ rest := by
    intro rest
    induction rest with
    | nil => simp
    | cons pair rest ih =>
        intro built hbuilt
        have hfresh : pair.1 ∉ built.map Prod.fst := by
          intro hmem
          rw [List.map_append, List.nodup_append] at hbuilt
          exact hbuilt.2.2 pair.1 hmem pair.1 (by simp) rfl
        rw [List.foldl_cons, insertPair_notMem hfresh, ih]
        · simp
        · simpa using hbuilt
  exact hfold members [] (by simpa using hnodup)

theorem parseString_render (fuel : ℕ) (s rest : PyStr) :
    parseValue parseFloat (fuel + 1) (renderString true s ++ rest) =
      some (.str (joinText s), rest) := by
  simp only [renderString, if_true, List.cons_append, List.append_assoc,
    List.nil_append, parseValue]
  rw [scanString_renderString]
  rfl

/-- Reading one member up to the mark after its value. -/
theorem parseMembers_name
    (hstyle : Readable style) (name : PyStr) {value read : Json}
    {fuel : ℕ} {rest : PyStr} {c : CodePoint}
    (hstart : ∃ first tail, render floatRepr style value = first :: tail ∧ StartsValue first)
    (hvalue : parseValue parseFloat fuel (render floatRepr style value ++ c :: rest) =
      some (read, c :: rest)) :
    parseMembers parseFloat (fuel + 1)
        (renderString style.ensureAscii name ++ (style.keySeparator ++
          (render floatRepr style value ++ c :: rest))) =
      match skipWhitespace (c :: rest) with
      | [] => none
      | c :: rest =>
          if c.val = 0x7D then some ([(joinText name, read)], rest)
          else if c.val = 0x2C then do
            let tail ← parseMembers parseFloat fuel (skipWhitespace rest)
            pure ((joinText name, read) :: tail.1, tail.2)
          else none := by
  obtain ⟨space, hcolon, hspace⟩ := hstyle.keySeparator
  obtain ⟨first, tail, hfirst, hstart⟩ := hstart
  have hskip : skipWhitespace (space ++ (render floatRepr style value ++ c :: rest)) =
      render floatRepr style value ++ c :: rest := by
    rw [skipWhitespace_append hspace, hfirst, List.cons_append,
      skipWhitespace_cons hstart.1]
  have hmark : skipWhitespace (style.keySeparator ++
      (render floatRepr style value ++ c :: rest)) =
      ⟨0x3A, by decide⟩ :: (space ++ (render floatRepr style value ++ c :: rest)) := by
    rw [hcolon]
    exact skipWhitespace_cons (by decide) _
  have hstring : renderString style.ensureAscii name ++ (style.keySeparator ++
      (render floatRepr style value ++ c :: rest)) =
      quote :: (name.flatMap escapeAscii ++ quote :: (style.keySeparator ++
        (render floatRepr style value ++ c :: rest))) := by
    simp [renderString, hstyle.ensureAscii]
  rw [hstring, parseMembers, if_pos rfl, scanString_renderString]
  simp only [Option.bind_eq_bind, Option.bind_some, hmark, if_true, hskip, hvalue]
  rfl

mutual

theorem parseValue_render
    (hstyle : Readable style) (value : Json)
    (hfloats : floatless value = false → FloatsRead parseFloat floatRepr readFloat)
    (fuel : ℕ) (hfuel : (render floatRepr style value).length ≤ fuel)
    {rest : PyStr} (hrest : Delimited rest) :
    parseValue parseFloat fuel (render floatRepr style value ++ rest) =
      some (reread readFloat value, rest) := by
  obtain ⟨first, tail, hfirst, hstart⟩ :=
    render_head parseFloat floatRepr style value hfloats
  obtain ⟨fuel, rfl⟩ : ∃ more, fuel = more + 1 := by
    rw [hfirst, List.length_cons] at hfuel
    exact ⟨fuel - 1, by omega⟩
  cases value with
  | null => exact congrArg (Option.map _) (expect_append (py "ull") rest)
  | bool b =>
      cases b
      · exact congrArg (Option.map _) (expect_append (py "alse") rest)
      · exact congrArg (Option.map _) (expect_append (py "rue") rest)
  | int n =>
      obtain ⟨c, tail, hrender, -, hc⟩ := renderInt_head n
      have hscan := scanNumber_renderInt parseFloat n hrest
      simp only [render, hrender, List.cons_append] at hscan ⊢
      have hval : (0x30 ≤ c.val ∧ c.val ≤ 0x39) ∨ c.val = 0x2D := by
        rcases hc with hc | rfl
        · left
          simpa [isDigit] using hc
        · exact Or.inr rfl
      have hquote : c ≠ quote := by
        rintro rfl
        revert hval
        decide
      rw [parseValue, if_neg hquote, if_neg (by omega), if_neg (by omega),
        if_neg (by omega), if_neg (by omega), if_neg (by omega),
        if_neg (by omega), if_neg (by omega), hscan]
      rfl
  | float bits => exact hfloats rfl bits fuel rest hrest
  | str s =>
      simp only [render, hstyle.ensureAscii]
      exact parseString_render parseFloat fuel s rest
  | arr items =>
      have hopen : (⟨0x5B, by decide⟩ : CodePoint) ≠ quote := by decide
      cases items with
      | nil => rfl
      | cons item items =>
          have hitems := parseItems_render hstyle (item :: items) (by simp)
            hfloats fuel (by
              simp only [render, List.length_append, py, List.length_map] at hfuel
              simp at hfuel ⊢
              omega) rest
          obtain ⟨c, tail, hhead, hc⟩ := renderItems_head parseFloat
            floatRepr style item items fun hitem =>
              hfloats (by simp [floatless, floatlessItems, hitem])
          rw [hhead, List.cons_append] at hitems
          change parseValue parseFloat (fuel + 1)
            (⟨0x5B, by decide⟩ :: (renderItems floatRepr style (item :: items) ++
              py "]" ++ rest)) = _
          rw [hhead, List.append_assoc, List.cons_append, parseValue,
            if_neg hopen, if_neg (by decide), if_pos rfl,
            skipWhitespace_cons hc.1]
          simp only [hc.2.1, if_false]
          exact congrArg (fun parsed => Option.bind parsed _) hitems
  | obj members =>
      have hopen : (⟨0x7B, by decide⟩ : CodePoint) ≠ quote := by decide
      cases members with
      | nil => rfl
      | cons member members =>
          have hmembers := parseMembers_render hstyle (member :: members) (by simp)
            hfloats fuel (by
              simp only [render, List.length_append, py, List.length_map] at hfuel
              simp at hfuel ⊢
              omega) rest
          obtain ⟨tail, hhead⟩ := renderMembers_head
            floatRepr style member members
          rw [hhead, List.cons_append] at hmembers
          change parseValue parseFloat (fuel + 1)
            (⟨0x7B, by decide⟩ :: (renderMembers floatRepr style (member :: members) ++
              py "\x7d" ++ rest)) = _
          rw [hhead, List.append_assoc, List.cons_append, parseValue,
            if_neg hopen, if_pos rfl, skipWhitespace_cons (by decide)]
          exact congrArg (fun parsed => Option.bind parsed _) hmembers

theorem parseItems_render
    (hstyle : Readable style) (items : List Json) (hne : items ≠ [])
    (hfloats : floatlessItems items = false → FloatsRead parseFloat floatRepr readFloat)
    (fuel : ℕ)
    (hfuel : (renderItems floatRepr style items).length + 1 ≤ fuel)
    (rest : PyStr) :
    parseItems parseFloat fuel
        (renderItems floatRepr style items ++ ⟨0x5D, by decide⟩ :: rest) =
      some (rereadItems readFloat items, rest) := by
  obtain ⟨fuel, rfl⟩ : ∃ more, fuel = more + 1 := ⟨fuel - 1, by omega⟩
  match items with
  | [] => simp at hne
  | [item] =>
      simp only [renderItems] at hfuel ⊢
      have hvalue := parseValue_render hstyle item
        (fun hitem => hfloats (by simp [floatlessItems, hitem])) fuel (by omega)
        (delimited_of_mark ⟨0x5D, by decide⟩ (by simp) rest)
      simp only [parseItems, hvalue]
      rfl
  | item :: next :: items =>
      have hfirst : floatless item = false → FloatsRead parseFloat floatRepr readFloat :=
        fun hitem => hfloats (by rw [floatlessItems, hitem]; rfl)
      have hothers : floatlessItems (next :: items) = false →
          FloatsRead parseFloat floatRepr readFloat :=
        fun hitems => hfloats (by rw [floatlessItems, hitems, Bool.and_false])
      obtain ⟨blank, hsep, hblank⟩ := hstyle.itemSeparator
      obtain ⟨c, tail, hhead, hc⟩ := renderItems_head parseFloat
        floatRepr style next items fun hnext =>
          hothers (by rw [floatlessItems, hnext]; rfl)
      simp only [renderItems, List.length_append] at hfuel
      have hcomma : style.itemSeparator.length = blank.length + 1 := by
        simp [hsep, py]
      have hvalue := parseValue_render hstyle item hfirst fuel (by omega)
        (delimited_of_mark ⟨0x2C, by decide⟩ (by simp)
          (blank ++ (renderItems floatRepr style (next :: items) ++
            ⟨0x5D, by decide⟩ :: rest)))
      have htail := parseItems_render hstyle (next :: items) (by simp) hothers
        fuel (by omega) rest
      have hskip : skipWhitespace (blank ++
          (renderItems floatRepr style (next :: items) ++
            ⟨0x5D, by decide⟩ :: rest)) =
          renderItems floatRepr style (next :: items) ++
            ⟨0x5D, by decide⟩ :: rest := by
        rw [skipWhitespace_append hblank, hhead, List.cons_append,
          skipWhitespace_cons hc.1]
      have hshape : renderItems floatRepr style (item :: next :: items) ++
          ⟨0x5D, by decide⟩ :: rest =
          render floatRepr style item ++ (⟨0x2C, by decide⟩ :: (blank ++
            (renderItems floatRepr style (next :: items) ++
              ⟨0x5D, by decide⟩ :: rest))) := by
        simp only [renderItems, hsep, List.append_assoc]
        rfl
      rw [hshape, parseItems, hvalue]
      refine (congrArg (fun text => (parseItems parseFloat fuel text).bind _)
        hskip).trans ?_
      rw [htail]
      rfl

theorem parseMembers_render
    (hstyle : Readable style) (members : List (PyStr × Json)) (hne : members ≠ [])
    (hfloats : floatlessMembers members = false →
      FloatsRead parseFloat floatRepr readFloat) (fuel : ℕ)
    (hfuel : (renderMembers floatRepr style members).length + 1 ≤ fuel)
    (rest : PyStr) :
    parseMembers parseFloat fuel
        (renderMembers floatRepr style members ++ ⟨0x7D, by decide⟩ :: rest) =
      some (rereadMembers readFloat members, rest) := by
  obtain ⟨fuel, rfl⟩ : ∃ more, fuel = more + 1 := ⟨fuel - 1, by omega⟩
  match members with
  | [] => simp at hne
  | [(name, value)] =>
      have hfirst : floatless value = false → FloatsRead parseFloat floatRepr readFloat :=
        fun hvalue => hfloats (by simp [floatlessMembers, hvalue])
      simp only [renderMembers, List.length_append] at hfuel
      have hvalue := parseValue_render hstyle value hfirst
        fuel (by omega)
        (delimited_of_mark ⟨0x7D, by decide⟩ (by simp) rest)
      have hname := parseMembers_name parseFloat floatRepr hstyle name
        (render_head parseFloat floatRepr style value hfirst) hvalue
      simp only [renderMembers, List.append_assoc]
      rw [hname]
      rfl
  | (name, value) :: next :: members =>
      have hfirst : floatless value = false → FloatsRead parseFloat floatRepr readFloat :=
        fun hvalue => hfloats (by rw [floatlessMembers, hvalue]; rfl)
      have hothers : floatlessMembers (next :: members) = false →
          FloatsRead parseFloat floatRepr readFloat :=
        fun hmembers => hfloats (by rw [floatlessMembers, hmembers, Bool.and_false])
      obtain ⟨blank, hsep, hblank⟩ := hstyle.itemSeparator
      obtain ⟨tail, hhead⟩ := renderMembers_head floatRepr style next members
      simp only [renderMembers, List.length_append] at hfuel
      have hcomma : style.itemSeparator.length = blank.length + 1 := by
        simp [hsep, py]
      have hvalue := parseValue_render hstyle value
        hfirst fuel (by omega)
        (delimited_of_mark ⟨0x2C, by decide⟩ (by simp)
          (blank ++ (renderMembers floatRepr style (next :: members) ++
            ⟨0x7D, by decide⟩ :: rest)))
      have htail := parseMembers_render hstyle
        (next :: members) (by simp) hothers fuel (by omega) rest
      have hskip : skipWhitespace (blank ++
          (renderMembers floatRepr style (next :: members) ++
            ⟨0x7D, by decide⟩ :: rest)) =
          renderMembers floatRepr style (next :: members) ++
            ⟨0x7D, by decide⟩ :: rest := by
        rw [skipWhitespace_append hblank, hhead, List.cons_append,
          skipWhitespace_cons (by decide)]
      have hname := parseMembers_name parseFloat floatRepr hstyle name
        (render_head parseFloat floatRepr style value hfirst) hvalue
      have hshape : renderMembers floatRepr style ((name, value) :: next :: members) ++
          ⟨0x7D, by decide⟩ :: rest =
          renderString style.ensureAscii name ++ (style.keySeparator ++
            (render floatRepr style value ++ (⟨0x2C, by decide⟩ :: (blank ++
              (renderMembers floatRepr style (next :: members) ++
                ⟨0x7D, by decide⟩ :: rest))))) := by
        simp only [renderMembers, hsep, List.append_assoc]
        rfl
      rw [hshape, hname]
      refine (congrArg (fun text => (parseMembers parseFloat fuel text).bind _)
        hskip).trans ?_
      rw [htail]
      rfl

end

/-- Reading any rendered value back. -/
theorem loads_render_any
    (hstyle : Readable style) (value : Json)
    (hfloats : floatless value = false → FloatsRead parseFloat floatRepr readFloat) :
    loads parseFloat (render floatRepr style value) = some (reread readFloat value) := by
  obtain ⟨c, tail, hhead, hc⟩ :=
    render_head parseFloat floatRepr style value hfloats
  have hstart : skipWhitespace (render floatRepr style value) =
      render floatRepr style value := by
    rw [hhead, skipWhitespace_cons hc.1]
  have hempty : Delimited [] := fun c tail h => by simp at h
  have hparse := parseValue_render parseFloat floatRepr hstyle value
    hfloats ((render floatRepr style value).length + 1) (by omega) hempty
  rw [List.append_nil] at hparse
  simp only [loads, hstart]
  rw [hparse]
  rfl

mutual

theorem reread_plain (value : Json) (hvalue : plain value = true) :
    reread readFloat value = join value ∧ floatless value = true := by
  cases value with
  | float bits => simp [plain] at hvalue
  | arr items =>
      have hitems := rereadItems_plain items hvalue
      simp [reread, join, floatless, hitems]
  | obj members =>
      simp only [plain, Bool.and_eq_true, decide_eq_true_eq] at hvalue
      have hmembers := rereadMembers_plain members hvalue.1
      simp [reread, join, floatless, hmembers, buildDict_eq_self hvalue.2]
  | null | bool _ | int _ | str _ => exact ⟨rfl, rfl⟩

theorem rereadItems_plain (items : List Json) (hitems : plainItems items = true) :
    rereadItems readFloat items = joinItems items ∧ floatlessItems items = true := by
  match items with
  | [] => exact ⟨rfl, rfl⟩
  | item :: rest =>
      simp only [plainItems, Bool.and_eq_true] at hitems
      have hitem := reread_plain item hitems.1
      have hrest := rereadItems_plain rest hitems.2
      simp [rereadItems, joinItems, floatlessItems, hitem, hrest]

theorem rereadMembers_plain (members : List (PyStr × Json))
    (hmembers : plainMembers members = true) :
    rereadMembers readFloat members = joinMembers members ∧
      floatlessMembers members = true := by
  match members with
  | [] => exact ⟨rfl, rfl⟩
  | (name, value) :: rest =>
      simp only [plainMembers, Bool.and_eq_true] at hmembers
      have hvalue := reread_plain value hmembers.1
      have hrest := rereadMembers_plain rest hmembers.2
      simp [rereadMembers, joinMembers, floatlessMembers, hvalue, hrest]

end

/-- Reading a rendered value back gives the value with its split pairs joined. -/
theorem loads_render_plain
    (hstyle : Readable style) (value : Json) (hvalue : plain value = true) :
    loads parseFloat (render floatRepr style value) = some (join value) := by
  have hplain : reread id value = join value ∧ floatless value = true :=
    reread_plain value hvalue
  obtain ⟨hreread, hfloatless⟩ := hplain
  rw [loads_render_any parseFloat floatRepr hstyle value
    (fun hfloat => absurd hfloatless (by rw [hfloat]; decide)), hreread]

/-- Reading a rendered value back gives the value. -/
theorem loads_render
    (hstyle : Readable style) (value : Json) (hvalue : faithful value = true) :
    loads parseFloat (render floatRepr style value) = some value := by
  obtain ⟨hjoin, hplain⟩ := join_faithful value hvalue
  rw [loads_render_plain parseFloat floatRepr hstyle value hplain, hjoin]

end RoundTrip

end Json

end LibrarySystem
