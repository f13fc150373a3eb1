import LibrarySystem.Python.Time
import Mathlib.Data.Nat.Digits.Lemmas

/-!
# JSON values and `json.dumps`

The values `json.loads` builds, the rendering `json.dumps` produces, and the
three renderings the program uses: the default one, the compact one of the
wire envelope, and the canonical one (sorted keys, raw non-ASCII text) that is
hashed.  Floats are kept as their IEEE-754 bits.
-/

namespace LibrarySystem

inductive Json
  | null
  | bool (value : Bool)
  | int (value : ℤ)
  | float (bits : BitVec 64)
  | str (value : PyStr)
  | arr (items : List Json)
  | obj (members : List (PyStr × Json))

structure JsonStyle where
  itemSeparator : PyStr
  keySeparator : PyStr
  ensureAscii : Bool

namespace JsonStyle

/-- `json.dumps(value)`. -/
def default : JsonStyle := ⟨py ", ", py ": ", true⟩

/-- `separators=(",", ":")`. -/
def compact : JsonStyle := ⟨py ",", py ":", true⟩

/-- `separators=(",", ":"), ensure_ascii=False`. -/
def rawCompact : JsonStyle := ⟨py ",", py ":", false⟩

end JsonStyle

namespace Json

def lookup (key : PyStr) : List (PyStr × Json) → Option Json
  | [] => none
  | (name, value) :: rest => if name = key then some value else lookup key rest

/-- `isinstance(value, dict)`. -/
def members? : Json → Option (List (PyStr × Json))
  | .obj members => some members
  | _ => none

/-! ## Rendering -/

def hexDigit (n : ℕ) : CodePoint :=
  if n % 16 < 10 then Fin.ofNat 0x110000 (0x30 + n % 16)
  else Fin.ofNat 0x110000 (0x57 + n % 16)

def hex4 (n : ℕ) : PyStr :=
  [hexDigit (n / 4096), hexDigit (n / 256), hexDigit (n / 16), hexDigit n]

def backslash : CodePoint := ⟨0x5C, by decide⟩

def quote : CodePoint := ⟨0x22, by decide⟩

def unicodeEscape (n : ℕ) : PyStr :=
  backslash :: ⟨0x75, by decide⟩ :: hex4 n

/-- The two-character escapes, by the letter after the backslash. -/
def shortEscape (c : CodePoint) : Option CodePoint :=
  if c.val = 0x22 then some quote
  else if c.val = 0x5C then some backslash
  else if c.val = 0x0A then some ⟨0x6E, by decide⟩
  else if c.val = 0x0D then some ⟨0x72, by decide⟩
  else if c.val = 0x09 then some ⟨0x74, by decide⟩
  else if c.val = 0x0C then some ⟨0x66, by decide⟩
  else if c.val = 0x08 then some ⟨0x62, by decide⟩
  else none

/-- Outside the printable ASCII range every code point is escaped, those
beyond the basic plane as a surrogate pair. -/
def escapeAscii (c : CodePoint) : PyStr :=
  match shortEscape c with
  | some letter => [backslash, letter]
  | none =>
      if 0x20 ≤ c.val ∧ c.val ≤ 0x7E then [c]
      else if c.val < 0x10000 then unicodeEscape c.val
      else
        unicodeEscape (0xD800 + (c.val - 0x10000) / 1024) ++
          unicodeEscape (0xDC00 + (c.val - 0x10000) % 1024)

def escapeRaw (c : CodePoint) : PyStr :=
  match shortEscape c with
  | some letter => [backslash, letter]
  | none => if c.val < 0x20 then unicodeEscape c.val else [c]

def renderString (ensureAscii : Bool) (s : PyStr) : PyStr :=
  quote ::
    (s.flatMap (if ensureAscii then escapeAscii else escapeRaw) ++ [quote])

def renderNat (n : ℕ) : PyStr :=
  if n = 0 then [digit 0] else (Nat.digits 10 n).reverse.map digit

def renderInt : ℤ → PyStr
  | .ofNat n => renderNat n
  | .negSucc n => ⟨0x2D, by decide⟩ :: renderNat (n + 1)

section Render

variable (floatRepr : BitVec 64 → PyStr) (style : JsonStyle)

mutual

def render : Json → PyStr
  | .null => py "null"
  | .bool true => py "true"
  | .bool false => py "false"
  | .int value => renderInt value
  | .float bits => floatRepr bits
  | .str value => renderString style.ensureAscii value
  | .arr items => py "[" ++ (renderItems items ++ py "]")
  | .obj members => py "\x7b" ++ (renderMembers members ++ py "\x7d")

def renderItems : List Json → PyStr
  | [] => []
  | [item] => render item
  | item :: next :: rest =>
      render item ++ (style.itemSeparator ++ renderItems (next :: rest))

def renderMembers : List (PyStr × Json) → PyStr
  | [] => []
  | [(name, value)] =>
      renderString style.ensureAscii name ++
        (style.keySeparator ++ render value)
  | (name, value) :: next :: rest =>
      renderString style.ensureAscii name ++ (style.keySeparator ++
        (render value ++ (style.itemSeparator ++ renderMembers (next :: rest))))

end

end Render

/-! ## Canonical rendering -/

/-- Code point order on text. -/
def textLe : PyStr → PyStr → Bool
  | [], _ => true
  | _ :: _, [] => false
  | c :: s, d :: t => c.val < d.val || (c.val == d.val && textLe s t)

def insertMember (member : PyStr × Json) :
    List (PyStr × Json) → List (PyStr × Json)
  | [] => [member]
  | first :: rest =>
      if textLe member.1 first.1 then member :: first :: rest
      else first :: insertMember member rest

mutual

/-- `sort_keys=True`. -/
def sortKeys : Json → Json
  | .arr items => .arr (sortItems items)
  | .obj members => .obj (sortMembers members)
  | .null => .null
  | .bool value => .bool value
  | .int value => .int value
  | .float bits => .float bits
  | .str value => .str value

def sortItems : List Json → List Json
  | [] => []
  | item :: rest => sortKeys item :: sortItems rest

def sortMembers : List (PyStr × Json) → List (PyStr × Json)
  | [] => []
  | (name, value) :: rest => insertMember (name, sortKeys value) (sortMembers rest)

end

/-- `json.dumps(value, sort_keys=True, separators=(",", ":"),
ensure_ascii=False)`. -/
def canonical (floatRepr : BitVec 64 → PyStr) (value : Json) : PyStr :=
  render floatRepr .rawCompact (sortKeys value)

/-! ## Which text of a value survives strict encoding -/

mutual

/-- Some string or key of the value holds a lone surrogate. -/
def hasSurrogate : Json → Bool
  | .str value => PyStr.hasSurrogate value
  | .arr items => hasSurrogateItems items
  | .obj members => hasSurrogateMembers members
  | _ => false

def hasSurrogateItems : List Json → Bool
  | [] => false
  | item :: rest => hasSurrogate item || hasSurrogateItems rest

def hasSurrogateMembers : List (PyStr × Json) → Bool
  | [] => false
  | (name, value) :: rest =>
      PyStr.hasSurrogate name || hasSurrogate value || hasSurrogateMembers rest

end

end Json

namespace PyStr

@[simp] theorem hasSurrogate_nil : hasSurrogate [] = false := rfl

@[simp] theorem hasSurrogate_append (s t : PyStr) :
    hasSurrogate (s ++ t) = (hasSurrogate s || hasSurrogate t) := by
  simp [hasSurrogate]

@[simp] theorem hasSurrogate_cons (c : CodePoint) (s : PyStr) :
    hasSurrogate (c :: s) = (c.isSurrogate || hasSurrogate s) := by
  simp [hasSurrogate]

end PyStr

namespace Json

theorem hexDigit_isSurrogate (n : ℕ) : (hexDigit n).isSurrogate = false := by
  apply CodePoint.isSurrogate_eq_false_of_isAscii
  unfold hexDigit
  split <;>
    · simp only [CodePoint.isAscii, Fin.val_ofNat, decide_eq_true_eq]
      omega

theorem unicodeEscape_hasSurrogate (n : ℕ) :
    PyStr.hasSurrogate (unicodeEscape n) = false := by
  have hu : CodePoint.isSurrogate 0x75 = false := by decide
  have hb : CodePoint.isSurrogate backslash = false := by decide
  simp [unicodeEscape, hex4, hexDigit_isSurrogate, hu, hb]

theorem shortEscape_isSurrogate
    {c letter : CodePoint} (hshort : shortEscape c = some letter) :
    letter.isSurrogate = false ∧ c.isSurrogate = false := by
  unfold shortEscape at hshort
  split_ifs at hshort <;>
    · simp only [Option.some.injEq] at hshort
      subst letter
      refine ⟨by decide, ?_⟩
      simp only [CodePoint.isSurrogate, CodePoint.isHighSurrogate,
        CodePoint.isLowSurrogate, Bool.or_eq_false_iff, Bool.and_eq_false_iff,
        decide_eq_false_iff_not]
      omega

theorem escapeRaw_hasSurrogate (c : CodePoint) :
    PyStr.hasSurrogate (escapeRaw c) = c.isSurrogate := by
  have hb : CodePoint.isSurrogate backslash = false := by decide
  unfold escapeRaw
  cases hshort : shortEscape c with
  | some letter =>
      have hboth := shortEscape_isSurrogate hshort
      simp [hboth.1, hboth.2, hb]
  | none =>
      simp only
      split
      · rename_i hcontrol
        rw [unicodeEscape_hasSurrogate]
        symm
        apply CodePoint.isSurrogate_eq_false_of_isAscii
        simp only [CodePoint.isAscii, decide_eq_true_eq]
        omega
      · simp

theorem renderString_raw_hasSurrogate (s : PyStr) :
    PyStr.hasSurrogate (renderString false s) = PyStr.hasSurrogate s := by
  have hq : CodePoint.isSurrogate quote = false := by decide
  have hbody : PyStr.hasSurrogate (s.flatMap escapeRaw) =
      PyStr.hasSurrogate s := by
    induction s with
    | nil => rfl
    | cons c rest ih => simp [escapeRaw_hasSurrogate, ih]
  simp [renderString, hq, hbody]

theorem digit_isSurrogate (n : ℕ) : (digit n).isSurrogate = false :=
  CodePoint.isSurrogate_eq_false_of_isAscii (digit_isAscii n)

theorem renderInt_hasSurrogate (n : ℤ) :
    PyStr.hasSurrogate (renderInt n) = false := by
  have hnat : ∀ n, PyStr.hasSurrogate (renderNat n) = false := by
    intro n
    unfold renderNat
    split
    · simp [digit_isSurrogate]
    · simp [PyStr.hasSurrogate, digit_isSurrogate]
  have hminus : CodePoint.isSurrogate 0x2D = false := by decide
  cases n with
  | ofNat n => exact hnat n
  | negSucc n => simp [renderInt, hminus, hnat]

section Canonical

variable {floatRepr : BitVec 64 → PyStr}

mutual

/-- The raw rendering holds a surrogate exactly when the value does. -/
theorem render_raw_hasSurrogate
    (hfloat : ∀ bits, PyStr.hasSurrogate (floatRepr bits) = false)
    (value : Json) :
    PyStr.hasSurrogate (render floatRepr .rawCompact value) =
      hasSurrogate value := by
  cases value with
  | null =>
      simp only [render, hasSurrogate]
      decide
  | bool b =>
      cases b <;>
        · simp only [render, hasSurrogate]
          decide
  | int n => simp [render, hasSurrogate, renderInt_hasSurrogate]
  | float bits => simp [render, hasSurrogate, hfloat]
  | str s =>
      simp only [render, hasSurrogate]
      exact renderString_raw_hasSurrogate s
  | arr items =>
      have hitems := renderItems_raw_hasSurrogate hfloat items
      have hopen : PyStr.hasSurrogate (py "[") = false := by decide
      have hclose : PyStr.hasSurrogate (py "]") = false := by decide
      simp [render, hasSurrogate, hitems, hopen, hclose]
  | obj members =>
      have hmembers := renderMembers_raw_hasSurrogate hfloat members
      have hopen : PyStr.hasSurrogate (py "\x7b") = false := by decide
      have hclose : PyStr.hasSurrogate (py "\x7d") = false := by decide
      simp [render, hasSurrogate, hmembers, hopen, hclose]

theorem renderItems_raw_hasSurrogate
    (hfloat : ∀ bits, PyStr.hasSurrogate (floatRepr bits) = false)
    (items : List Json) :
    PyStr.hasSurrogate (renderItems floatRepr .rawCompact items) =
      hasSurrogateItems items := by
  have hsep : PyStr.hasSurrogate (JsonStyle.rawCompact.itemSeparator) = false := by
    decide
  match items with
  | [] => rfl
  | [item] =>
      have hitem := render_raw_hasSurrogate hfloat item
      simp [renderItems, hasSurrogateItems, hitem]
  | item :: next :: rest =>
      have hitem := render_raw_hasSurrogate hfloat item
      have hrest := renderItems_raw_hasSurrogate hfloat (next :: rest)
      rw [renderItems, hasSurrogateItems]
      simp [hitem, hrest, hsep]

theorem renderMembers_raw_hasSurrogate
    (hfloat : ∀ bits, PyStr.hasSurrogate (floatRepr bits) = false)
    (members : List (PyStr × Json)) :
    PyStr.hasSurrogate (renderMembers floatRepr .rawCompact members) =
      hasSurrogateMembers members := by
  have hsep : PyStr.hasSurrogate (JsonStyle.rawCompact.itemSeparator) = false := by
    decide
  have hcolon : PyStr.hasSurrogate (JsonStyle.rawCompact.keySeparator) = false := by
    decide
  have hname : ∀ name, PyStr.hasSurrogate
      (renderString JsonStyle.rawCompact.ensureAscii name) =
        PyStr.hasSurrogate name :=
    renderString_raw_hasSurrogate
  match members with
  | [] => rfl
  | [(name, value)] =>
      have hvalue := render_raw_hasSurrogate hfloat value
      simp [renderMembers, hasSurrogateMembers, hvalue, hname, hcolon]
  | (name, value) :: next :: rest =>
      have hvalue := render_raw_hasSurrogate hfloat value
      have hrest := renderMembers_raw_hasSurrogate hfloat (next :: rest)
      rw [renderMembers, hasSurrogateMembers]
      simp [hvalue, hrest, hname, hsep, hcolon, Bool.or_assoc]

end

end Canonical

/-! ## The characters of rendered text -/

def isPrintable (c : CodePoint) : Bool := 0x20 ≤ c.val && c.val ≤ 0x7E

/-- A class of characters that holds the printable ASCII ones, the separators,
the floats and the string literals. -/
structure RendersIn (p : CodePoint → Bool) (floatRepr : BitVec 64 → PyStr)
    (style : JsonStyle) : Prop where
  printable : ∀ c, isPrintable c = true → p c = true
  float : ∀ bits, (floatRepr bits).all p = true
  itemSeparator : style.itemSeparator.all p = true
  keySeparator : style.keySeparator.all p = true
  string : ∀ s, (renderString style.ensureAscii s).all p = true

theorem hexDigit_isPrintable (n : ℕ) : isPrintable (hexDigit n) = true := by
  unfold hexDigit isPrintable
  split <;>
    · simp only [Fin.val_ofNat, Bool.and_eq_true, decide_eq_true_eq]
      omega

theorem digit_isPrintable (n : ℕ) : isPrintable (digit n) = true := by
  have hval : (digit n).val = 0x30 + n % 10 := by
    simp only [digit, Fin.val_ofNat]
    omega
  simp only [isPrintable, hval, Bool.and_eq_true, decide_eq_true_eq]
  omega

theorem shortEscape_isPrintable
    {c letter : CodePoint} (hshort : shortEscape c = some letter) :
    isPrintable letter = true := by
  unfold shortEscape at hshort
  split_ifs at hshort <;>
    · obtain rfl := Option.some.inj hshort
      decide

theorem renderInt_isPrintable (n : ℤ) : (renderInt n).all isPrintable = true := by
  have hnat : ∀ n, (renderNat n).all isPrintable = true := by
    intro n
    unfold renderNat
    split
    · simp [digit_isPrintable]
    · simp only [List.all_eq_true, List.mem_map]
      rintro c ⟨d, -, rfl⟩
      exact digit_isPrintable d
  cases n with
  | ofNat n => exact hnat n
  | negSucc n =>
      simp only [renderInt, List.all_cons, hnat, Bool.and_true]
      decide

section Characters

variable {p : CodePoint → Bool} {floatRepr : BitVec 64 → PyStr} {style : JsonStyle}

theorem RendersIn.word
    (hp : RendersIn p floatRepr style) {text : PyStr}
    (htext : text.all isPrintable = true) :
    text.all p = true := by
  rw [List.all_eq_true] at htext ⊢
  exact fun c hc => hp.printable c (htext c hc)

mutual

theorem render_all (hp : RendersIn p floatRepr style) (value : Json) :
    (render floatRepr style value).all p = true := by
  cases value with
  | null => exact hp.word (by decide : (py "null").all isPrintable = true)
  | bool b =>
      cases b
      · exact hp.word (by decide : (py "false").all isPrintable = true)
      · exact hp.word (by decide : (py "true").all isPrintable = true)
  | int n => exact hp.word (renderInt_isPrintable n)
  | float bits => exact hp.float bits
  | str s => exact hp.string s
  | arr items =>
      have hopen : (py "[").all p = true := hp.word (by decide)
      have hclose : (py "]").all p = true := hp.word (by decide)
      simp [render, renderItems_all hp items, hopen, hclose]
  | obj members =>
      have hopen : (py "\x7b").all p = true := hp.word (by decide)
      have hclose : (py "\x7d").all p = true := hp.word (by decide)
      simp [render, renderMembers_all hp members, hopen, hclose]

theorem renderItems_all (hp : RendersIn p floatRepr style) (items : List Json) :
    (renderItems floatRepr style items).all p = true := by
  match items with
  | [] => rfl
  | [item] => exact render_all hp item
  | item :: next :: rest =>
      have hitem := render_all hp item
      have hrest := renderItems_all hp (next :: rest)
      rw [renderItems]
      simp only [List.all_append, hitem, hrest, hp.itemSeparator, Bool.and_self]

theorem renderMembers_all
    (hp : RendersIn p floatRepr style) (members : List (PyStr × Json)) :
    (renderMembers floatRepr style members).all p = true := by
  match members with
  | [] => rfl
  | [(name, value)] =>
      have hvalue := render_all hp value
      simp only [renderMembers, List.all_append, hvalue, hp.string, hp.keySeparator,
        Bool.and_self]
  | (name, value) :: next :: rest =>
      have hvalue := render_all hp value
      have hrest := renderMembers_all hp (next :: rest)
      rw [renderMembers]
      simp only [List.all_append, hvalue, hrest, hp.string, hp.keySeparator,
        hp.itemSeparator, Bool.and_self]

end

theorem renderString_all
    (hprintable : ∀ c, isPrintable c = true → p c = true) {ensureAscii : Bool}
    (hraw : ∀ c : CodePoint, ensureAscii = false → 0x20 ≤ c.val → p c = true) (s : PyStr) :
    (renderString ensureAscii s).all p = true := by
  have hquote : p quote = true := hprintable quote (by decide)
  have hunicode : ∀ n, (unicodeEscape n).all p = true := by
    intro n
    have hbackslash : p backslash = true := hprintable _ (by decide)
    have hu : p ⟨0x75, by decide⟩ = true := hprintable _ (by decide)
    simp only [unicodeEscape, hex4, List.all_cons, List.all_nil, hbackslash, hu,
      hprintable _ (hexDigit_isPrintable _), Bool.and_self]
  have hshort : ∀ c letter, shortEscape c = some letter →
      [backslash, letter].all p = true := by
    intro c letter hletter
    simp [hprintable _ (shortEscape_isPrintable hletter),
      hprintable backslash (by decide)]
  have hbody : (s.flatMap (if ensureAscii then escapeAscii else escapeRaw)).all p =
      true := by
    simp only [List.all_flatMap, List.all_eq_true]
    intro c _
    cases ensureAscii with
    | true =>
        simp only [if_true, escapeAscii]
        cases hfound : shortEscape c with
        | some letter => simpa using hshort c letter hfound
        | none =>
            simp only
            split_ifs with hascii hplane
            · simpa using hprintable c (by simpa [isPrintable] using hascii)
            · simpa using hunicode c.val
            · intro d hd
              rcases List.mem_append.mp hd with hd | hd
              · exact List.all_eq_true.mp (hunicode _) d hd
              · exact List.all_eq_true.mp (hunicode _) d hd
    | false =>
        simp only [Bool.false_eq_true, if_false, escapeRaw]
        cases hfound : shortEscape c with
        | some letter => simpa using hshort c letter hfound
        | none =>
            simp only
            split_ifs with hcontrol
            · simpa using hunicode c.val
            · simpa using hraw c rfl (by omega)
  simp [renderString, hquote, hbody]

end Characters

theorem hasNul_eq_not_all (s : PyStr) : PyStr.hasNul s = !s.all fun c => c.val != 0 := by
  simp [PyStr.hasNul, List.not_all_eq_any_not, bne]

theorem renderInt_hasNul (n : ℤ) : PyStr.hasNul (renderInt n) = false := by
  have hprintable := renderInt_isPrintable n
  simp only [List.all_eq_true, isPrintable, Bool.and_eq_true, decide_eq_true_eq]
    at hprintable
  simp only [PyStr.hasNul, List.any_eq_false, beq_iff_eq]
  intro c hc
  have hrange := hprintable c hc
  omega

theorem renderNat_hasNul (n : ℕ) : PyStr.hasNul (renderNat n) = false :=
  renderInt_hasNul n

/-- Control characters are escaped, so rendered text has no NUL. -/
theorem render_raw_hasNul
    {floatRepr : BitVec 64 → PyStr}
    (hfloat : ∀ bits, PyStr.hasNul (floatRepr bits) = false) (value : Json) :
    PyStr.hasNul (render floatRepr .rawCompact value) = false := by
  have hprintable : ∀ c, isPrintable c = true → (c.val != 0) = true := by
    intro c hc
    simp only [isPrintable, Bool.and_eq_true, decide_eq_true_eq] at hc
    simp only [bne_iff_ne]
    omega
  rw [hasNul_eq_not_all, Bool.not_eq_false']
  refine render_all ⟨hprintable, ?_, by decide, by decide, ?_⟩ value
  · intro bits
    simpa [hasNul_eq_not_all] using hfloat bits
  · refine renderString_all hprintable ?_
    intro c _ hc
    simp only [bne_iff_ne]
    omega

/-- `ensure_ascii` keeps rendered text within ASCII. -/
theorem render_isAscii
    {floatRepr : BitVec 64 → PyStr} {style : JsonStyle}
    (hfloat : ∀ bits, PyStr.isAscii (floatRepr bits) = true)
    (hescape : style.ensureAscii = true)
    (hitem : PyStr.isAscii style.itemSeparator = true)
    (hkey : PyStr.isAscii style.keySeparator = true) (value : Json) :
    PyStr.isAscii (render floatRepr style value) = true := by
  have hprintable : ∀ c, isPrintable c = true → c.isAscii = true := by
    intro c hc
    simp only [isPrintable, Bool.and_eq_true, decide_eq_true_eq] at hc
    simp only [CodePoint.isAscii, decide_eq_true_eq]
    omega
  refine render_all ⟨hprintable, hfloat, hitem, hkey, ?_⟩ value
  exact renderString_all hprintable (fun c hraw => by simp [hescape] at hraw)

theorem render_default_isAscii
    {floatRepr : BitVec 64 → PyStr}
    (hfloat : ∀ bits, PyStr.isAscii (floatRepr bits) = true) (value : Json) :
    PyStr.isAscii (render floatRepr .default value) = true :=
  render_isAscii hfloat rfl (by decide) (by decide) value

theorem render_compact_isAscii
    {floatRepr : BitVec 64 → PyStr}
    (hfloat : ∀ bits, PyStr.isAscii (floatRepr bits) = true) (value : Json) :
    PyStr.isAscii (render floatRepr .compact value) = true :=
  render_isAscii hfloat rfl (by decide) (by decide) value

theorem insertMember_hasSurrogate
    (member : PyStr × Json) (members : List (PyStr × Json)) :
    hasSurrogateMembers (insertMember member members) =
      (PyStr.hasSurrogate member.1 || hasSurrogate member.2 ||
        hasSurrogateMembers members) := by
  induction members with
  | nil => simp [insertMember, hasSurrogateMembers]
  | cons first rest ih =>
      simp only [insertMember]
      split
      · simp [hasSurrogateMembers]
      · simp only [hasSurrogateMembers, ih]
        cases PyStr.hasSurrogate first.1 <;> cases hasSurrogate first.2 <;>
          simp

mutual

theorem sortKeys_hasSurrogate (value : Json) :
    hasSurrogate (sortKeys value) = hasSurrogate value := by
  cases value with
  | null => rfl
  | bool b => rfl
  | int n => rfl
  | float bits => rfl
  | str s => rfl
  | arr items =>
      simpa [sortKeys, hasSurrogate] using sortItems_hasSurrogate items
  | obj members =>
      simpa [sortKeys, hasSurrogate] using sortMembers_hasSurrogate members

theorem sortItems_hasSurrogate (items : List Json) :
    hasSurrogateItems (sortItems items) = hasSurrogateItems items := by
  match items with
  | [] => rfl
  | item :: rest =>
      have hitem := sortKeys_hasSurrogate item
      have hrest := sortItems_hasSurrogate rest
      simp [sortItems, hasSurrogateItems, hitem, hrest]

theorem sortMembers_hasSurrogate (members : List (PyStr × Json)) :
    hasSurrogateMembers (sortMembers members) = hasSurrogateMembers members := by
  match members with
  | [] => rfl
  | (name, value) :: rest =>
      have hvalue := sortKeys_hasSurrogate value
      have hrest := sortMembers_hasSurrogate rest
      rw [sortMembers, insertMember_hasSurrogate, hasSurrogateMembers]
      simp [hvalue, hrest]

end

/-- The canonical text can be hashed exactly when no string of the value holds
a lone surrogate. -/
theorem encodeUtf8_canonical_isSome
    {floatRepr : BitVec 64 → PyStr}
    (hfloat : ∀ bits, PyStr.hasSurrogate (floatRepr bits) = false)
    (value : Json) :
    (PyStr.encodeUtf8 (canonical floatRepr value)).isSome =
      !hasSurrogate value := by
  rw [PyStr.encodeUtf8_isSome, canonical, render_raw_hasSurrogate hfloat,
    sortKeys_hasSurrogate]

end Json

end LibrarySystem
