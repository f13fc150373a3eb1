import LibrarySystem.Python.Iso
import LibrarySystem.Python.JsonParse

/-!
# The interpreter

Case folding, `uuid.UUID`, `datetime.fromisoformat`, float text, `repr` and
SHA-256 come from Unicode tables or C code.  They are gathered in one structure
with the documented laws the program relies on; every other operation of the
language is defined.  The last section is an interpreter that agrees with
Python on ASCII text, canonical UUIDs and extended ISO-8601.
-/

namespace LibrarySystem

abbrev Uuid := Fin (2 ^ 128)

instance Uuid.neZero : NeZero (2 ^ 128) := ⟨by decide⟩

/-- `"%0{width}x" % n`. -/
def padHex : ℕ → ℕ → PyStr
  | 0, _ => []
  | width + 1, n => padHex width (n / 16) ++ [Json.hexDigit n]

/-- `str(uuid)`. -/
def uuidText (u : Uuid) : PyStr :=
  padHex 8 (u.val / 16 ^ 24) ++ py "-" ++ padHex 4 (u.val / 16 ^ 20) ++ py "-" ++
    padHex 4 (u.val / 16 ^ 16) ++ py "-" ++ padHex 4 (u.val / 16 ^ 12) ++
    py "-" ++ padHex 12 u.val

structure PythonRuntime where
  /-- `str.lower` -/
  lower : PyStr → PyStr
  lower_ascii : ∀ s, PyStr.isAscii s = true → lower s = s.map CodePoint.asciiLower
  lower_not_upper : ∀ s, ∀ c ∈ lower s, c.isUpper = false
  /-- `uuid.UUID(text)`, `none` for `ValueError` -/
  parseUuid : PyStr → Option Uuid
  parseUuid_uuidText : ∀ u, parseUuid (uuidText u) = some u
  /-- `datetime.fromisoformat(text)`, `none` for `ValueError` -/
  fromisoformat : PyStr → Option DateTime
  fromisoformat_isoformat : ∀ t, fromisoformat (isoformat t) = some (.ofUtc t)
  floatRepr : BitVec 64 → PyStr
  floatRepr_isAscii : ∀ bits, PyStr.isAscii (floatRepr bits) = true
  floatRepr_hasNul : ∀ bits, PyStr.hasNul (floatRepr bits) = false
  parseFloat : PyStr → BitVec 64
  /-- `repr` of a decoded JSON value; control characters come out escaped. -/
  repr : Json → PyStr
  repr_hasNul : ∀ value, PyStr.hasNul (repr value) = false
  /-- `hashlib.sha256(data).hexdigest()` -/
  sha256 : List (Fin 256) → PyStr
  sha256_hasNul : ∀ data, PyStr.hasNul (sha256 data) = false

theorem PythonRuntime.floatRepr_hasSurrogate
    (rt : PythonRuntime) (bits : BitVec 64) :
    PyStr.hasSurrogate (rt.floatRepr bits) = false :=
  PyStr.hasSurrogate_eq_false_of_isAscii (rt.floatRepr_isAscii bits)

/-! ## Canonical UUID text -/

def isHexDigit (c : CodePoint) : Bool :=
  c.isDigit || (0x61 ≤ c.val && c.val ≤ 0x66) || (0x41 ≤ c.val && c.val ≤ 0x46)

def isHyphen (c : CodePoint) : Bool := c.val == 0x2D

/-- `[0-9a-fA-F]{8}-[0-9a-fA-F]{4}-[0-9a-fA-F]{4}-[0-9a-fA-F]{4}-[0-9a-fA-F]{12}` -/
def matchesUuidPattern : List Bool → PyStr → Bool
  | [], [] => true
  | hyphen :: shape, c :: s =>
      (if hyphen then isHyphen c else isHexDigit c) && matchesUuidPattern shape s
  | _, _ => false

/-- The positions of a hyphen in the pattern. -/
def uuidShape : List Bool :=
  List.replicate 8 false ++ [true] ++ List.replicate 4 false ++ [true] ++
    List.replicate 4 false ++ [true] ++ List.replicate 4 false ++ [true] ++
    List.replicate 12 false

theorem hexDigit_isHexDigit (n : ℕ) : isHexDigit (Json.hexDigit n) = true := by
  simp only [isHexDigit, CodePoint.isDigit, Json.hexDigit_val, Bool.or_eq_true,
    Bool.and_eq_true, decide_eq_true_eq]
  split <;> omega

theorem padHex_length (width n : ℕ) : (padHex width n).length = width := by
  induction width generalizing n with
  | zero => rfl
  | succ width ih => simp [padHex, ih]

theorem matchesUuidPattern_append
    {shape shape' : List Bool} {s s' : PyStr}
    (hs : matchesUuidPattern shape s = true) :
    matchesUuidPattern (shape ++ shape') (s ++ s') =
      matchesUuidPattern shape' s' := by
  induction shape generalizing s with
  | nil =>
      cases s with
      | nil => rfl
      | cons c s => simp [matchesUuidPattern] at hs
  | cons hyphen shape ih =>
      cases s with
      | nil => simp [matchesUuidPattern] at hs
      | cons c s =>
          simp only [matchesUuidPattern, Bool.and_eq_true] at hs
          simp [matchesUuidPattern, hs.1, ih hs.2]

theorem padHex_matches (width n : ℕ) :
    matchesUuidPattern (List.replicate width false) (padHex width n) = true := by
  induction width generalizing n with
  | zero => rfl
  | succ width ih =>
      rw [List.replicate_succ', padHex, matchesUuidPattern_append (ih _)]
      simp [matchesUuidPattern, hexDigit_isHexDigit]

theorem uuidText_matches (u : Uuid) :
    matchesUuidPattern uuidShape (uuidText u) = true := by
  have hhyphen : matchesUuidPattern [true] (py "-") = true := by decide
  have hgroup := padHex_matches
  unfold uuidText uuidShape
  simp only [List.append_assoc]
  rw [matchesUuidPattern_append (hgroup _ _), matchesUuidPattern_append hhyphen,
    matchesUuidPattern_append (hgroup _ _), matchesUuidPattern_append hhyphen,
    matchesUuidPattern_append (hgroup _ _), matchesUuidPattern_append hhyphen,
    matchesUuidPattern_append (hgroup _ _), matchesUuidPattern_append hhyphen]
  exact hgroup _ _

theorem length_of_matchesUuidPattern
    {shape : List Bool} {s : PyStr} (hs : matchesUuidPattern shape s = true) :
    s.length = shape.length := by
  induction shape generalizing s with
  | nil =>
      cases s with
      | nil => rfl
      | cons c s => simp [matchesUuidPattern] at hs
  | cons hyphen shape ih =>
      cases s with
      | nil => simp [matchesUuidPattern] at hs
      | cons c s =>
          simp only [matchesUuidPattern, Bool.and_eq_true] at hs
          simp [ih hs.2]

theorem mem_of_matchesUuidPattern
    {shape : List Bool} {s : PyStr} (hs : matchesUuidPattern shape s = true)
    {c : CodePoint} (hc : c ∈ s) :
    isHexDigit c = true ∨ isHyphen c = true := by
  induction shape generalizing s with
  | nil =>
      cases s with
      | nil => simp at hc
      | cons d s => simp [matchesUuidPattern] at hs
  | cons hyphen shape ih =>
      cases s with
      | nil => simp [matchesUuidPattern] at hs
      | cons d s =>
          simp only [matchesUuidPattern, Bool.and_eq_true] at hs
          rcases List.mem_cons.mp hc with rfl | hc
          · cases hyphen
            · exact Or.inl hs.1
            · exact Or.inr hs.1
          · exact ih hs.2 hc

/-! ## An interpreter for ASCII text -/

def hexNat (digits : PyStr) (start : ℕ) : ℕ :=
  digits.foldl (fun n c => n * 16 + (Json.hexValue c).getD 0) start

/-- Thirty-two hexadecimal digits with hyphens anywhere between them. -/
def readUuid (s : PyStr) : Option Uuid :=
  let hex := s.filter fun c => !isHyphen c
  if hex.length = 32 ∧ hex.all isHexDigit = true then
    some (Fin.ofNat (2 ^ 128) (hexNat hex 0))
  else none

theorem hexNat_padHex (width n start : ℕ) :
    hexNat (padHex width n) start = start * 16 ^ width + n % 16 ^ width := by
  induction width generalizing n with
  | zero => simp [hexNat, padHex, Nat.mod_one]
  | succ width ih =>
      have hprefix := ih (n / 16)
      unfold hexNat at hprefix ⊢
      rw [padHex, List.foldl_append, hprefix]
      simp only [List.foldl_cons, List.foldl_nil, Json.hexValue_hexDigit,
        Option.getD_some]
      rw [Nat.pow_succ, Nat.mul_comm (16 ^ width) 16, Nat.mod_mul]
      ring

theorem padHex_filter (width n : ℕ) :
    (padHex width n).filter (fun c => !isHyphen c) = padHex width n ∧
      (padHex width n).all isHexDigit = true := by
  induction width generalizing n with
  | zero => exact ⟨rfl, rfl⟩
  | succ width ih =>
      have hdigit := hexDigit_isHexDigit n
      have hhyphen : isHyphen (Json.hexDigit n) = false := by
        simp only [isHyphen, Json.hexDigit_val, beq_eq_false_iff_ne]
        split <;> omega
      simp [padHex, (ih (n / 16)).1, List.all_append, (ih (n / 16)).2, hdigit,
        hhyphen]

theorem readUuid_uuidText (u : Uuid) : readUuid (uuidText u) = some u := by
  have hgroup := fun width n => (padHex_filter width n).1
  have hdigits := fun width n => (padHex_filter width n).2
  have hdash : (py "-").filter (fun c => !isHyphen c) = [] := by decide
  have hhex : (uuidText u).filter (fun c => !isHyphen c) =
      padHex 8 (u.val / 16 ^ 24) ++ padHex 4 (u.val / 16 ^ 20) ++
        padHex 4 (u.val / 16 ^ 16) ++ padHex 4 (u.val / 16 ^ 12) ++
        padHex 12 u.val := by
    simp only [uuidText, List.filter_append, hgroup, hdash, List.append_nil]
  have hvalue : hexNat ((uuidText u).filter fun c => !isHyphen c) 0 = u.val := by
    have hu := u.isLt
    have happend : ∀ s t start, hexNat (s ++ t) start = hexNat t (hexNat s start) :=
      fun s t start => List.foldl_append
    rw [hhex]
    simp only [happend, hexNat_padHex]
    omega
  unfold readUuid
  simp only [hvalue]
  rw [if_pos]
  · exact congrArg some (Fin.ext (Nat.mod_eq_of_lt u.isLt))
  · rw [hhex]
    simp [padHex_length, List.all_append, hdigits]

theorem asciiLower_isUpper (c : CodePoint) : c.asciiLower.isUpper = false := by
  unfold CodePoint.asciiLower
  split
  · rename_i hupper
    simp only [CodePoint.isUpper, Bool.and_eq_true, decide_eq_true_eq] at hupper
    simp only [CodePoint.isUpper, Bool.and_eq_false_iff, decide_eq_false_iff_not]
    omega
  · simp_all

theorem hasNul_of_all_isHexDigit {text : PyStr} (hhex : text.all isHexDigit = true) :
    PyStr.hasNul text = false := by
  rw [PyStr.hasNul, List.any_eq_false]
  intro c hc hzero
  have hdigit := List.all_eq_true.mp hhex c hc
  simp only [isHexDigit, CodePoint.isDigit, Bool.or_eq_true, Bool.and_eq_true,
    decide_eq_true_eq, beq_iff_eq] at hdigit hzero
  omega

/-- The last 64 hex digits of the bytes read as one number, in place of their digest. -/
def foldedDigest (data : List (Fin 256)) : PyStr :=
  padHex 64 (data.foldl (fun total byte => 257 * total + byte.val + 1) 0)

theorem foldedDigest_all (data : List (Fin 256)) :
    (foldedDigest data).all isHexDigit = true :=
  (padHex_filter _ _).2

/-- An interpreter on which closed terms can be evaluated. -/
def asciiRuntime : PythonRuntime where
  lower := fun s => s.map CodePoint.asciiLower
  lower_ascii := fun _ _ => rfl
  lower_not_upper := by
    intro s c hc
    obtain ⟨d, _, rfl⟩ := List.mem_map.mp hc
    exact asciiLower_isUpper d
  parseUuid := readUuid
  parseUuid_uuidText := readUuid_uuidText
  fromisoformat := readExtendedIso
  fromisoformat_isoformat := readExtendedIso_isoformat
  floatRepr := fun _ => py "0.0"
  floatRepr_isAscii := fun _ => by decide
  floatRepr_hasNul := fun _ => by decide
  parseFloat := fun _ => 0
  repr := fun _ => py "..."
  repr_hasNul := fun _ => by decide
  sha256 := foldedDigest
  sha256_hasNul := fun data => hasNul_of_all_isHexDigit (foldedDigest_all data)

end LibrarySystem
