import LibrarySystem.Python.Text

/-!
# Bytes

Strict UTF-8 decoding and base64 with validation, each with the theorem that
decoding gives back what was encoded.
-/

namespace LibrarySystem

abbrev Bytes := List (Fin 256)

instance Bytes.neZero : NeZero 256 := ⟨by decide⟩

/-! ## UTF-8 -/

/-- The payload of a continuation byte. -/
def continuation (byte : Fin 256) : Option ℕ :=
  if 0x80 ≤ byte.val ∧ byte.val < 0xC0 then some (byte.val - 0x80) else none

/-- A decoded number that is no surrogate and needed all its bytes. -/
def scalarValue (least n : ℕ) : Option CodePoint :=
  if h : n < 0x110000 then
    if least ≤ n ∧ CodePoint.isSurrogate ⟨n, h⟩ = false then some ⟨n, h⟩ else none
  else none

/-- `bytes.decode("utf-8")`; `none` is `UnicodeDecodeError`. -/
def decodeUtf8 : Bytes → Option PyStr
  | [] => some []
  | a :: rest =>
      if a.val < 0x80 then do
        let c ← scalarValue 0 a.val
        let tail ← decodeUtf8 rest
        pure (c :: tail)
      else if a.val < 0xC0 then none
      else if a.val < 0xE0 then
        match rest with
        | b :: rest => do
            let b ← continuation b
            let c ← scalarValue 0x80 ((a.val - 0xC0) * 64 + b)
            let tail ← decodeUtf8 rest
            pure (c :: tail)
        | _ => none
      else if a.val < 0xF0 then
        match rest with
        | b :: c :: rest => do
            let b ← continuation b
            let c ← continuation c
            let c ← scalarValue 0x800 (((a.val - 0xE0) * 64 + b) * 64 + c)
            let tail ← decodeUtf8 rest
            pure (c :: tail)
        | _ => none
      else if a.val < 0xF8 then
        match rest with
        | b :: c :: d :: rest => do
            let b ← continuation b
            let c ← continuation c
            let d ← continuation d
            let c ← scalarValue 0x10000
              ((((a.val - 0xF0) * 64 + b) * 64 + c) * 64 + d)
            let tail ← decodeUtf8 rest
            pure (c :: tail)
        | _ => none
      else none

theorem continuation_ofNat {n : ℕ} (hn : n < 64) :
    continuation (Fin.ofNat 256 (0x80 + n)) = some n := by
  have hval : (Fin.ofNat 256 (0x80 + n)).val = 0x80 + n := by
    simp only [Fin.val_ofNat]
    omega
  unfold continuation
  rw [hval, if_pos (by omega)]
  exact congrArg some (by omega)

theorem scalarValue_val
    {least : ℕ} {c : CodePoint} {n : ℕ} (hn : n = c.val) (hleast : least ≤ c.val)
    (hc : c.isSurrogate = false) :
    scalarValue least n = some c := by
  subst hn
  simp [scalarValue, hleast, hc]

theorem decodeUtf8_append
    {c : CodePoint} {first : Bytes} (hfirst : PyStr.encodeCodePoint c = some first)
    (rest : Bytes) :
    decodeUtf8 (first ++ rest) = (decodeUtf8 rest).map (c :: ·) := by
  have hsurrogate : c.isSurrogate = false := by
    have hsome := PyStr.encodeCodePoint_isSome c
    rw [hfirst] at hsome
    simpa using hsome.symm
  have hc := c.isLt
  have hbind : ∀ x : Option PyStr, (do
      let tail ← x
      pure (c :: tail)) = x.map (c :: ·) := by
    intro x
    cases x <;> rfl
  unfold PyStr.encodeCodePoint at hfirst
  simp only [hsurrogate, Bool.false_eq_true, if_false] at hfirst
  split_ifs at hfirst with hone htwo hthree
  · obtain rfl := Option.some.inj hfirst
    have hval : (Fin.ofNat 256 c.val).val = c.val := by
      simp only [Fin.val_ofNat]
      omega
    have hscalar : scalarValue 0 c.val = some c :=
      scalarValue_val rfl (by omega) hsurrogate
    conv_lhs => rw [decodeUtf8.eq_def]
    simp only [List.cons_append, List.nil_append, hval, hone, if_true, hscalar,
      Option.bind_eq_bind, Option.bind_some]
    exact hbind _
  · obtain rfl := Option.some.inj hfirst
    have hval : (Fin.ofNat 256 (0xC0 + c.val / 64)).val = 0xC0 + c.val / 64 := by
      simp only [Fin.val_ofNat]
      omega
    have hscalar : scalarValue 0x80 ((0xC0 + c.val / 64 - 0xC0) * 64 + c.val % 64) =
        some c := scalarValue_val (by omega) (by omega) hsurrogate
    simp only [List.cons_append, List.nil_append, decodeUtf8, hval,
      continuation_ofNat (Nat.mod_lt c.val (by decide : 0 < 64)), Option.bind_eq_bind,
      Option.bind_some]
    rw [if_neg (by omega), if_neg (by omega), if_pos (by omega), hscalar]
    exact hbind _
  · obtain rfl := Option.some.inj hfirst
    have hval : (Fin.ofNat 256 (0xE0 + c.val / 4096)).val = 0xE0 + c.val / 4096 := by
      simp only [Fin.val_ofNat]
      omega
    have hscalar : scalarValue 0x800 (((0xE0 + c.val / 4096 - 0xE0) * 64 +
        c.val / 64 % 64) * 64 + c.val % 64) = some c :=
      scalarValue_val (by omega) (by omega) hsurrogate
    simp only [List.cons_append, List.nil_append, decodeUtf8, hval,
      continuation_ofNat (Nat.mod_lt _ (by decide : 0 < 64)), Option.bind_eq_bind,
      Option.bind_some]
    rw [if_neg (by omega), if_neg (by omega), if_neg (by omega), if_pos (by omega),
      hscalar]
    exact hbind _
  · obtain rfl := Option.some.inj hfirst
    have hval : (Fin.ofNat 256 (0xF0 + c.val / 262144)).val =
        0xF0 + c.val / 262144 := by
      simp only [Fin.val_ofNat]
      omega
    have hscalar : scalarValue 0x10000 ((((0xF0 + c.val / 262144 - 0xF0) * 64 +
        c.val / 4096 % 64) * 64 + c.val / 64 % 64) * 64 + c.val % 64) = some c :=
      scalarValue_val (by omega) (by omega) hsurrogate
    simp only [List.cons_append, List.nil_append, decodeUtf8, hval,
      continuation_ofNat (Nat.mod_lt _ (by decide : 0 < 64)), Option.bind_eq_bind,
      Option.bind_some]
    rw [if_neg (by omega), if_neg (by omega), if_neg (by omega), if_neg (by omega),
      if_pos (by omega), hscalar]
    exact hbind _

theorem decodeUtf8_encodeUtf8
    {s : PyStr} {bytes : Bytes} (hencode : PyStr.encodeUtf8 s = some bytes) :
    decodeUtf8 bytes = some s := by
  induction s generalizing bytes with
  | nil =>
      obtain rfl := Option.some.inj hencode
      rfl
  | cons c s ih =>
      simp only [PyStr.encodeUtf8, Option.bind_eq_bind, Option.bind_eq_some_iff,
        Option.pure_def, Option.some.injEq] at hencode
      obtain ⟨first, hfirst, tail, htail, rfl⟩ := hencode
      rw [decodeUtf8_append hfirst, ih htail]
      rfl

/-! ## Base64 -/

/-- The character of six bits. -/
def base64Char (n : ℕ) : CodePoint :=
  if n < 26 then Fin.ofNat 0x110000 (0x41 + n)
  else if n < 52 then Fin.ofNat 0x110000 (0x61 + (n - 26))
  else if n < 62 then Fin.ofNat 0x110000 (0x30 + (n - 52))
  else if n = 62 then ⟨0x2B, by decide⟩
  else ⟨0x2F, by decide⟩

def base64Value (c : CodePoint) : Option ℕ :=
  if c.isUpper then some (c.val - 0x41)
  else if c.isLower then some (c.val - 0x61 + 26)
  else if c.isDigit then some (c.val - 0x30 + 52)
  else if c.val = 0x2B then some 62
  else if c.val = 0x2F then some 63
  else none

def padding : CodePoint := ⟨0x3D, by decide⟩

/-- `base64.b64encode(data).decode("ascii")` -/
def b64encode : Bytes → PyStr
  | [] => []
  | [a] => [base64Char (a.val / 4), base64Char (a.val % 4 * 16), padding, padding]
  | [a, b] =>
      [base64Char (a.val / 4), base64Char (a.val % 4 * 16 + b.val / 16),
        base64Char (b.val % 16 * 4), padding]
  | a :: b :: c :: rest =>
      base64Char (a.val / 4) :: base64Char (a.val % 4 * 16 + b.val / 16) ::
        base64Char (b.val % 16 * 4 + c.val / 64) :: base64Char (c.val % 64) ::
          b64encode rest

/-- `base64.b64decode(text, validate=True)`; `none` is `ValueError`. -/
def b64decode : PyStr → Option Bytes
  | [] => some []
  | p :: q :: r :: s :: rest => do
      let p ← base64Value p
      let q ← base64Value q
      let first := Fin.ofNat 256 (p * 4 + q / 16)
      if r = padding then
        if s = padding ∧ rest = [] then pure [first] else none
      else
        let r ← base64Value r
        let second := Fin.ofNat 256 (q * 16 + r / 4)
        if s = padding then
          if rest = [] then pure [first, second] else none
        else
          let s ← base64Value s
          let tail ← b64decode rest
          pure (first :: second :: Fin.ofNat 256 (r * 64 + s) :: tail)
  | _ => none

theorem base64Value_base64Char {n : ℕ} (hn : n < 64) :
    base64Value (base64Char n) = some n := by
  interval_cases n <;> decide

theorem base64Char_ne_padding {n : ℕ} (hn : n < 64) : base64Char n ≠ padding := by
  interval_cases n <;> decide

theorem base64Char_isAscii {n : ℕ} (hn : n < 64) : (base64Char n).isAscii = true := by
  interval_cases n <;> decide

theorem b64decode_b64encode (data : Bytes) : b64decode (b64encode data) = some data := by
  have hbyte : ∀ (a : Fin 256) (n : ℕ), n % 256 = a.val → Fin.ofNat 256 n = a :=
    fun a n hn => Fin.ext hn
  fun_induction b64encode data with
  | case1 => rfl
  | case2 a =>
      have ha := a.isLt
      simp only [b64decode, base64Value_base64Char (by omega : a.val / 4 < 64),
        base64Value_base64Char (by omega : a.val % 4 * 16 < 64), Option.bind_eq_bind,
        Option.bind_some, if_true, and_self, Option.pure_def, Option.some.injEq]
      rw [hbyte a _ (by omega)]
  | case3 a b =>
      have ha := a.isLt
      have hb := b.isLt
      have hthird : b.val % 16 * 4 < 64 := by omega
      simp only [b64decode, base64Value_base64Char (by omega : a.val / 4 < 64),
        base64Value_base64Char (by omega : a.val % 4 * 16 + b.val / 16 < 64),
        base64Value_base64Char hthird, base64Char_ne_padding hthird,
        Option.bind_eq_bind, Option.bind_some, if_true, if_false, Option.pure_def,
        Option.some.injEq]
      rw [hbyte a _ (by omega), hbyte b _ (by omega)]
  | case4 a b c rest ih =>
      have ha := a.isLt
      have hb := b.isLt
      have hc := c.isLt
      have hthird : b.val % 16 * 4 + c.val / 64 < 64 := by omega
      have hfourth : c.val % 64 < 64 := by omega
      simp only [b64decode, base64Value_base64Char (by omega : a.val / 4 < 64),
        base64Value_base64Char (by omega : a.val % 4 * 16 + b.val / 16 < 64),
        base64Value_base64Char hthird, base64Char_ne_padding hthird,
        base64Value_base64Char hfourth, base64Char_ne_padding hfourth, ih,
        Option.bind_eq_bind, Option.bind_some, if_false, Option.pure_def,
        Option.some.injEq]
      rw [hbyte a _ (by omega), hbyte b _ (by omega), hbyte c _ (by omega)]

theorem b64encode_isAscii (data : Bytes) : PyStr.isAscii (b64encode data) = true := by
  have hpadding : padding.isAscii = true := by decide
  fun_induction b64encode data with
  | case1 => rfl
  | case2 a =>
      have ha := a.isLt
      simp only [PyStr.isAscii, List.all_cons, List.all_nil, hpadding, Bool.and_true,
        Bool.and_eq_true]
      exact ⟨base64Char_isAscii (by omega), base64Char_isAscii (by omega)⟩
  | case3 a b =>
      have ha := a.isLt
      have hb := b.isLt
      simp only [PyStr.isAscii, List.all_cons, List.all_nil, hpadding, Bool.and_true,
        Bool.and_eq_true]
      exact ⟨base64Char_isAscii (by omega), base64Char_isAscii (by omega),
        base64Char_isAscii (by omega)⟩
  | case4 a b c rest ih =>
      have ha := a.isLt
      have hb := b.isLt
      have hc := c.isLt
      simp only [PyStr.isAscii, List.all_cons, Bool.and_eq_true] at ih ⊢
      exact ⟨base64Char_isAscii (by omega), base64Char_isAscii (by omega),
        base64Char_isAscii (by omega), base64Char_isAscii (by omega), ih⟩

end LibrarySystem
