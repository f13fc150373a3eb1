import LibrarySystem.Python.Bytes
import Mathlib.Data.List.DropRight

/-!
# Base64 for URLs

The encoding without its padding, as the cursors of a listing are written, and the
decoder of the interpreter, which skips what is no character of the alphabet and stops
at the padding that completes a quad.
-/

namespace LibrarySystem

theorem plus_valid : 0x2B < 0x110000 := by decide

theorem hyphen_valid : 0x2D < 0x110000 := by decide

theorem slash_valid : 0x2F < 0x110000 := by decide

theorem underscore_valid : 0x5F < 0x110000 := by decide

/-- The alphabet of URLs. -/
def urlsafeChar (c : CodePoint) : CodePoint :=
  if c.val = 0x2B then ⟨0x2D, hyphen_valid⟩
  else if c.val = 0x2F then ⟨0x5F, underscore_valid⟩
  else c

/-- The translation back; the other alphabet is accepted as well. -/
def standardChar (c : CodePoint) : CodePoint :=
  if c.val = 0x2D then ⟨0x2B, plus_valid⟩
  else if c.val = 0x5F then ⟨0x2F, slash_valid⟩
  else c

/-- `base64.urlsafe_b64encode(data).decode("ascii")` -/
def urlsafeB64encode (data : Bytes) : PyStr := (b64encode data).map urlsafeChar

/-- `binascii.a2b_base64`, not strict: the position in the quad, the bits left over and
the padding met since the last character; `none` is `binascii.Error`. -/
def a2bBase64 : ℕ → ℕ → ℕ → PyStr → Option Bytes
  | quad, _, _, [] => if quad = 0 then some [] else none
  | quad, left, pads, c :: rest =>
      if c = padding then
        if 2 ≤ quad then
          if 4 ≤ quad + (pads + 1) then some [] else a2bBase64 quad left (pads + 1) rest
        else a2bBase64 quad left pads rest
      else
        match base64Value c with
        | none => a2bBase64 quad left pads rest
        | some v =>
            match quad with
            | 0 => a2bBase64 1 v 0 rest
            | 1 => (a2bBase64 2 (v % 16) 0 rest).map (Fin.ofNat 256 (left * 4 + v / 16) :: ·)
            | 2 => (a2bBase64 3 (v % 4) 0 rest).map (Fin.ofNat 256 (left * 16 + v / 4) :: ·)
            | _ => (a2bBase64 0 0 0 rest).map (Fin.ofNat 256 (left * 64 + v) :: ·)

/-- `base64.urlsafe_b64decode(text)`; `none` is `ValueError`. -/
def urlsafeB64decode (text : PyStr) : Option Bytes :=
  if PyStr.isAscii text then a2bBase64 0 0 0 (text.map standardChar) else none

/-! ## Encoding and decoding -/

theorem urlsafeChar_eq_padding_iff (c : CodePoint) : urlsafeChar c = padding ↔ c = padding := by
  unfold urlsafeChar
  split_ifs with hplus hslash
  · have hc : c ≠ padding := by
      rintro rfl
      exact absurd hplus (by decide)
    exact iff_of_false (by decide) hc
  · have hc : c ≠ padding := by
      rintro rfl
      exact absurd hslash (by decide)
    exact iff_of_false (by decide) hc
  · exact Iff.rfl

theorem standardChar_urlsafeChar_base64Char {n : ℕ} (hn : n < 64) :
    standardChar (urlsafeChar (base64Char n)) = base64Char n := by
  interval_cases n <;> decide

theorem urlsafeChar_base64Char_isAscii {n : ℕ} (hn : n < 64) :
    (urlsafeChar (base64Char n)).isAscii = true := by
  interval_cases n <;> decide

/-- The characters of the encoding, then its padding. -/
theorem b64encode_shape (data : Bytes) :
    ∃ body : List ℕ, (∀ n ∈ body, n < 64) ∧
      b64encode data = body.map base64Char ++ List.replicate ((3 - data.length % 3) % 3) padding ∧
      body.length = (4 * data.length + 2) / 3 := by
  fun_induction b64encode data with
  | case1 => exact ⟨[], by simp, rfl, rfl⟩
  | case2 a =>
      have ha := a.isLt
      refine ⟨[a.val / 4, a.val % 4 * 16], ?_, rfl, by simp⟩
      simp only [List.mem_cons, List.not_mem_nil, or_false, forall_eq_or_imp, forall_eq]
      omega
  | case3 a b =>
      have ha := a.isLt
      have hb := b.isLt
      refine ⟨[a.val / 4, a.val % 4 * 16 + b.val / 16, b.val % 16 * 4], ?_, rfl, by simp⟩
      simp only [List.mem_cons, List.not_mem_nil, or_false, forall_eq_or_imp, forall_eq]
      omega
  | case4 a b c rest ih =>
      have ha := a.isLt
      have hb := b.isLt
      have hc := c.isLt
      obtain ⟨body, hbody, hrest, hlength⟩ := ih
      refine ⟨a.val / 4 :: (a.val % 4 * 16 + b.val / 16) ::
        (b.val % 16 * 4 + c.val / 64) :: (c.val % 64) :: body, ?_, ?_, ?_⟩
      · simp only [List.mem_cons, forall_eq_or_imp]
        exact ⟨by omega, by omega, by omega, by omega, hbody⟩
      · have hmod : (rest.length + 1 + 1 + 1) % 3 = rest.length % 3 := by omega
        simp only [List.length_cons, hmod, hrest, List.map_cons, List.cons_append]
      · simp only [List.length_cons, hlength]
        omega

section Characters

variable {left pads n : ℕ} {rest : PyStr}

theorem a2bBase64_first (hn : n < 64) :
    a2bBase64 0 left pads (base64Char n :: rest) = a2bBase64 1 n 0 rest := by
  rw [a2bBase64, if_neg (base64Char_ne_padding hn), base64Value_base64Char hn]
  rfl

theorem a2bBase64_second (hn : n < 64) :
    a2bBase64 1 left pads (base64Char n :: rest) =
      (a2bBase64 2 (n % 16) 0 rest).map (Fin.ofNat 256 (left * 4 + n / 16) :: ·) := by
  rw [a2bBase64, if_neg (base64Char_ne_padding hn), base64Value_base64Char hn]
  rfl

theorem a2bBase64_third (hn : n < 64) :
    a2bBase64 2 left pads (base64Char n :: rest) =
      (a2bBase64 3 (n % 4) 0 rest).map (Fin.ofNat 256 (left * 16 + n / 4) :: ·) := by
  rw [a2bBase64, if_neg (base64Char_ne_padding hn), base64Value_base64Char hn]
  rfl

theorem a2bBase64_fourth (hn : n < 64) :
    a2bBase64 3 left pads (base64Char n :: rest) =
      (a2bBase64 0 0 0 rest).map (Fin.ofNat 256 (left * 64 + n) :: ·) := by
  rw [a2bBase64, if_neg (base64Char_ne_padding hn), base64Value_base64Char hn]
  rfl

end Characters

/-- What the decoder makes of the encoding. -/
theorem a2bBase64_b64encode (data : Bytes) : a2bBase64 0 0 0 (b64encode data) = some data := by
  have hbyte : ∀ (a : Fin 256) (n : ℕ), n % 256 = a.val → Fin.ofNat 256 n = a :=
    fun a n hn => Fin.ext hn
  fun_induction b64encode data with
  | case1 => rfl
  | case2 a =>
      have ha := a.isLt
      rw [a2bBase64_first (by omega), a2bBase64_second (by omega), hbyte a _ (by omega)]
      rfl
  | case3 a b =>
      have ha := a.isLt
      have hb := b.isLt
      rw [a2bBase64_first (by omega), a2bBase64_second (by omega),
        a2bBase64_third (by omega), hbyte a _ (by omega), hbyte b _ (by omega)]
      rfl
  | case4 a b c rest ih =>
      have ha := a.isLt
      have hb := b.isLt
      have hc := c.isLt
      rw [a2bBase64_first (by omega), a2bBase64_second (by omega),
        a2bBase64_third (by omega), a2bBase64_fourth (by omega), ih, hbyte a _ (by omega),
        hbyte b _ (by omega), hbyte c _ (by omega)]
      rfl

/-- The encoding without its padding, as many characters as the data needs. -/
theorem urlsafeB64encode_stripped (data : Bytes) :
    ∃ body : List ℕ, (∀ n ∈ body, n < 64) ∧
      (urlsafeB64encode data).rdropWhile (· == padding) =
        body.map (fun n => urlsafeChar (base64Char n)) ∧
      b64encode data =
        body.map base64Char ++ List.replicate ((3 - data.length % 3) % 3) padding ∧
      body.length = (4 * data.length + 2) / 3 := by
  obtain ⟨body, hbody, hencode, hlength⟩ := b64encode_shape data
  refine ⟨body, hbody, ?_, hencode, hlength⟩
  have hpadding : urlsafeChar padding = padding := by decide
  unfold urlsafeB64encode
  rw [hencode, List.map_append, List.map_replicate, hpadding, List.map_map]
  have hstripped : ∀ count, List.rdropWhile (· == padding)
      (body.map (urlsafeChar ∘ base64Char) ++ List.replicate count padding) =
        body.map (urlsafeChar ∘ base64Char) := by
    intro count
    induction count with
    | zero =>
        rw [List.replicate_zero, List.append_nil, List.rdropWhile_eq_self_iff]
        intro hne
        obtain ⟨n, hn, hlast⟩ := List.mem_map.mp (List.getLast_mem hne)
        rw [← hlast]
        simpa [urlsafeChar_eq_padding_iff] using base64Char_ne_padding (hbody n hn)
    | succ count ih =>
        rw [List.replicate_succ', ← List.append_assoc, List.rdropWhile_concat_pos _ _ _ (by simp)]
        exact ih
  exact hstripped _

/-- `"=" * (-len(text) % 4)` completes the text, and decoding gives the data back. -/
theorem urlsafeB64decode_encode (data : Bytes) (text : PyStr)
    (htext : text = (urlsafeB64encode data).rdropWhile (· == padding)) :
    urlsafeB64decode (text ++ List.replicate ((4 - text.length % 4) % 4) padding) =
      some data ∧
    text.length = (4 * data.length + 2) / 3 := by
  obtain ⟨body, hbody, hstripped, hencode, hlength⟩ := urlsafeB64encode_stripped data
  rw [hstripped] at htext
  subst htext
  have hpads : (4 - body.length % 4) % 4 = (3 - data.length % 3) % 3 := by
    have hsplit : data.length = 3 * (data.length / 3) + data.length % 3 := by omega
    have hmod : data.length % 3 < 3 := Nat.mod_lt _ (by decide)
    generalize data.length % 3 = r at hsplit hmod ⊢
    generalize data.length / 3 = k at hsplit
    rw [hlength, hsplit]
    interval_cases r <;> omega
  have hascii : PyStr.isAscii (body.map (fun n => urlsafeChar (base64Char n)) ++
      List.replicate ((3 - data.length % 3) % 3) padding) = true := by
    simp only [PyStr.isAscii, List.all_append, Bool.and_eq_true, List.all_eq_true,
      List.mem_map, List.mem_replicate]
    constructor
    · rintro c ⟨n, hn, rfl⟩
      exact urlsafeChar_base64Char_isAscii (hbody n hn)
    · rintro c ⟨-, rfl⟩
      decide
  have hstandard : (body.map fun n => standardChar (urlsafeChar (base64Char n))) =
      body.map base64Char :=
    List.map_congr_left fun n hn => standardChar_urlsafeChar_base64Char (hbody n hn)
  have hpadding : standardChar padding = padding := by decide
  rw [List.length_map, hpads]
  refine ⟨?_, hlength⟩
  unfold urlsafeB64decode
  rw [if_pos hascii, List.map_append, List.map_map, List.map_replicate, hpadding]
  simp only [Function.comp_def]
  rw [hstandard, ← hencode]
  exact a2bBase64_b64encode data

end LibrarySystem
