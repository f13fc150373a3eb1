import Mathlib.Data.List.DropRight
import Mathlib.Tactic

/-!
# Python text

A Python `str` is a sequence of code points, lone surrogates included.  This
file has the operations the program applies to text: whitespace trimming and
folding, the shape of its regular expressions (one character class for the
first position and one for the rest), and strict UTF-8 encoding.
-/

namespace LibrarySystem

abbrev CodePoint := Fin 0x110000

instance CodePoint.neZero : NeZero 0x110000 := ⟨by decide⟩

abbrev PyStr := List CodePoint

instance PyStr.lawfulBEq : LawfulBEq PyStr := inferInstance

/-- A literal of the source. -/
def py (text : String) : PyStr :=
  text.toList.map fun c =>
    ⟨c.toNat, by
      have hvalid := c.valid
      unfold UInt32.isValidChar Nat.isValidChar at hvalid
      change c.val.toNat < _
      omega⟩

namespace CodePoint

/-- The code points `str.isspace` accepts. -/
def isSpace (c : CodePoint) : Bool :=
  let n := c.val
  (0x09 ≤ n && n ≤ 0x0D) || (0x1C ≤ n && n ≤ 0x20) || n == 0x85 ||
    n == 0xA0 || n == 0x1680 || (0x2000 ≤ n && n ≤ 0x200A) ||
    n == 0x2028 || n == 0x2029 || n == 0x202F || n == 0x205F || n == 0x3000

def isUpper (c : CodePoint) : Bool := 0x41 ≤ c.val && c.val ≤ 0x5A

def isLower (c : CodePoint) : Bool := 0x61 ≤ c.val && c.val ≤ 0x7A

def isDigit (c : CodePoint) : Bool := 0x30 ≤ c.val && c.val ≤ 0x39

def isLetter (c : CodePoint) : Bool := c.isUpper || c.isLower

def isAlphanumeric (c : CodePoint) : Bool := c.isLetter || c.isDigit

def isAscii (c : CodePoint) : Bool := c.val < 0x80

def isHighSurrogate (c : CodePoint) : Bool := 0xD800 ≤ c.val && c.val ≤ 0xDBFF

def isLowSurrogate (c : CodePoint) : Bool := 0xDC00 ≤ c.val && c.val ≤ 0xDFFF

def isSurrogate (c : CodePoint) : Bool := c.isHighSurrogate || c.isLowSurrogate

def space : CodePoint := ⟨0x20, by decide⟩

/-- ASCII case folding of one code point. -/
def asciiLower (c : CodePoint) : CodePoint :=
  if h : c.isUpper then
    ⟨c.val + 0x20, by
      simp only [isUpper, Bool.and_eq_true, decide_eq_true_eq] at h
      omega⟩
  else c

@[simp] theorem space_isSpace : space.isSpace = true := by decide

theorem isSpace_eq_false_of_isAlphanumeric
    {c : CodePoint} (hc : c.isAlphanumeric = true) :
    c.isSpace = false := by
  simp [isAlphanumeric, isLetter, isUpper, isLower, isDigit] at hc
  simp [isSpace]
  omega

theorem isAscii_of_isAlphanumeric
    {c : CodePoint} (hc : c.isAlphanumeric = true) :
    c.isAscii = true := by
  simp [isAlphanumeric, isLetter, isUpper, isLower, isDigit] at hc
  simp [isAscii]
  omega

theorem isSurrogate_eq_false_of_isAscii
    {c : CodePoint} (hc : c.isAscii = true) :
    c.isSurrogate = false := by
  simp [isAscii] at hc
  simp [isSurrogate, isHighSurrogate, isLowSurrogate]
  omega

theorem asciiLower_eq_self
    {c : CodePoint} (hc : c.isUpper = false) :
    c.asciiLower = c := by
  simp [asciiLower, hc]

end CodePoint

namespace PyStr

open CodePoint

/-- `str.strip()`. -/
def strip (s : PyStr) : PyStr :=
  (s.dropWhile isSpace).rdropWhile isSpace

/-- The scan behind `str.split()`; `word` holds the current word reversed. -/
def splitWords : PyStr → PyStr → List PyStr
  | word, [] => if word = [] then [] else [word.reverse]
  | word, c :: rest =>
      if c.isSpace then
        if word = [] then splitWords [] rest
        else word.reverse :: splitWords [] rest
      else splitWords (c :: word) rest

def joinWords : List PyStr → PyStr
  | [] => []
  | [word] => word
  | word :: next :: rest => word ++ space :: joinWords (next :: rest)

/-- `" ".join(s.split())`. -/
def collapse (s : PyStr) : PyStr :=
  joinWords (splitWords [] s)

/-- Full match of a class for the first position and a class for the rest. -/
def matchesHeadTail (head tail : CodePoint → Bool) : PyStr → Bool
  | [] => false
  | c :: rest => head c && rest.all tail

def isAscii (s : PyStr) : Bool := s.all CodePoint.isAscii

def hasSurrogate (s : PyStr) : Bool := s.any CodePoint.isSurrogate

def hasNul (s : PyStr) : Bool := s.any fun c => c.val == 0

theorem strip_eq_nil_iff (s : PyStr) :
    strip s = [] ↔ ∀ c ∈ s, c.isSpace = true := by
  unfold strip
  rw [List.rdropWhile_eq_nil_iff]
  constructor
  · intro hall
    have hnil : s.dropWhile isSpace = [] := by
      by_contra hne
      have hhead := List.head_dropWhile_not isSpace hne
      have hspace := hall _ (List.head_mem hne)
      rw [hhead] at hspace
      exact Bool.false_ne_true hspace
    rw [List.dropWhile_eq_nil_iff] at hnil
    exact hnil
  · intro hall c hc
    exact hall c (List.dropWhile_suffix _ |>.subset hc)

theorem strip_eq_self
    {s : PyStr} (hs : ∀ c ∈ s, c.isSpace = false) :
    strip s = s := by
  unfold strip
  have hdrop : s.dropWhile isSpace = s := by
    cases s with
    | nil => rfl
    | cons c rest => simp [hs c (by simp)]
  rw [hdrop, List.rdropWhile_eq_self_iff]
  intro hne
  simp [hs _ (List.getLast_mem hne)]

/-! ## Words -/

/-- The words `split` can return. -/
def IsWord (word : PyStr) : Prop :=
  word ≠ [] ∧ ∀ c ∈ word, c.isSpace = false

theorem isWord_of_mem_splitWords
    {s word current : PyStr}
    (hcurrent : ∀ c ∈ current, c.isSpace = false)
    (hword : word ∈ splitWords current s) :
    IsWord word := by
  induction s generalizing current with
  | nil =>
      simp only [splitWords] at hword
      split at hword
      · simp at hword
      · rename_i hne
        simp only [List.mem_singleton] at hword
        subst word
        exact ⟨by simpa using hne, by simpa using hcurrent⟩
  | cons c rest ih =>
      simp only [splitWords] at hword
      split at hword
      · split at hword
        · exact ih (by simp) hword
        · rename_i hne
          rcases List.mem_cons.mp hword with rfl | hrest
          · exact ⟨by simpa using hne, by simpa using hcurrent⟩
          · exact ih (by simp) hrest
      · rename_i hc
        refine ih ?_ hword
        intro d hd
        rcases List.mem_cons.mp hd with rfl | hd
        · simpa using hc
        · exact hcurrent d hd

theorem splitWords_append_word
    (current word rest : PyStr)
    (hword : ∀ c ∈ word, c.isSpace = false) :
    splitWords current (word ++ rest) =
      splitWords (word.reverse ++ current) rest := by
  induction word generalizing current with
  | nil => rfl
  | cons c word ih =>
      have hc : c.isSpace = false := hword c (by simp)
      simp only [List.cons_append, splitWords, hc, Bool.false_eq_true,
        if_false, List.reverse_cons, List.append_assoc, List.nil_append]
      exact ih (c :: current) fun d hd => hword d (by simp [hd])

theorem splitWords_joinWords
    (words : List PyStr) (hwords : ∀ word ∈ words, IsWord word) :
    splitWords [] (joinWords words) = words := by
  induction words with
  | nil => simp [joinWords, splitWords]
  | cons word rest ih =>
      have hword := hwords word (by simp)
      cases rest with
      | nil =>
          have hsplit := splitWords_append_word [] word [] hword.2
          simp only [List.append_nil] at hsplit
          rw [joinWords, hsplit]
          simp [splitWords, hword.1]
      | cons next rest =>
          have htail := ih fun w hw => hwords w (by simp [hw])
          rw [joinWords, splitWords_append_word [] word _ hword.2]
          simp [splitWords, hword.1, htail]

@[simp] theorem collapse_collapse (s : PyStr) :
    collapse (collapse s) = collapse s := by
  unfold collapse
  rw [splitWords_joinWords]
  intro word hword
  exact isWord_of_mem_splitWords (by simp) hword

theorem exists_not_isSpace_of_collapse_ne_nil
    {s : PyStr} (hs : collapse s ≠ []) :
    ∃ c ∈ collapse s, c.isSpace = false := by
  have hall : ∀ word ∈ splitWords [] s, IsWord word :=
    fun word hword => isWord_of_mem_splitWords (by simp) hword
  unfold collapse at hs ⊢
  cases hsplit : splitWords [] s with
  | nil => simp [hsplit, joinWords] at hs
  | cons word rest =>
      have hword : IsWord word := hall word (by simp [hsplit])
      obtain ⟨c, tail, rfl⟩ := List.exists_cons_of_ne_nil hword.1
      refine ⟨c, ?_, hword.2 c (by simp)⟩
      cases rest <;> simp [joinWords]

theorem strip_collapse_ne_nil {s : PyStr} (hs : collapse s ≠ []) :
    strip (collapse s) ≠ [] := by
  intro hnil
  obtain ⟨c, hmem, hc⟩ := exists_not_isSpace_of_collapse_ne_nil hs
  have := (strip_eq_nil_iff _).mp hnil c hmem
  simp [hc] at this

theorem matchesHeadTail_mem
    {head tail : CodePoint → Bool} {s : PyStr}
    (hs : matchesHeadTail head tail s = true)
    (hhead : ∀ c, head c = true → tail c = true)
    {c : CodePoint} (hc : c ∈ s) :
    tail c = true := by
  cases s with
  | nil => simp at hc
  | cons d rest =>
      simp only [matchesHeadTail, Bool.and_eq_true, List.all_eq_true] at hs
      rcases List.mem_cons.mp hc with rfl | hc
      · exact hhead _ hs.1
      · exact hs.2 c hc

theorem ne_nil_of_matchesHeadTail
    {head tail : CodePoint → Bool} {s : PyStr}
    (hs : matchesHeadTail head tail s = true) :
    s ≠ [] := by
  rintro rfl
  simp [matchesHeadTail] at hs

theorem hasSurrogate_eq_false_of_isAscii
    {s : PyStr} (hs : isAscii s = true) :
    hasSurrogate s = false := by
  simp only [isAscii, List.all_eq_true] at hs
  simp only [hasSurrogate, List.any_eq_false]
  intro c hc
  simp [isSurrogate_eq_false_of_isAscii (hs c hc)]

@[simp] theorem hasNul_nil : hasNul [] = false := rfl

@[simp] theorem hasNul_cons (c : CodePoint) (s : PyStr) :
    hasNul (c :: s) = (c.val == 0 || hasNul s) := by
  simp [hasNul]

@[simp] theorem hasNul_append (s t : PyStr) :
    hasNul (s ++ t) = (hasNul s || hasNul t) := by
  simp [hasNul]

/-! ## Strict UTF-8 -/

/-- One code point under `str.encode("utf-8")`; a surrogate is refused. -/
def encodeCodePoint (c : CodePoint) : Option (List (Fin 256)) :=
  let n := c.val
  if n < 0x80 then some [Fin.ofNat 256 n]
  else if n < 0x800 then
    some [Fin.ofNat 256 (0xC0 + n / 64), Fin.ofNat 256 (0x80 + n % 64)]
  else if c.isSurrogate then none
  else if n < 0x10000 then
    some [Fin.ofNat 256 (0xE0 + n / 4096),
      Fin.ofNat 256 (0x80 + n / 64 % 64), Fin.ofNat 256 (0x80 + n % 64)]
  else
    some [Fin.ofNat 256 (0xF0 + n / 262144),
      Fin.ofNat 256 (0x80 + n / 4096 % 64),
      Fin.ofNat 256 (0x80 + n / 64 % 64), Fin.ofNat 256 (0x80 + n % 64)]

/-- `str.encode("utf-8")`; `none` is `UnicodeEncodeError`. -/
def encodeUtf8 : PyStr → Option (List (Fin 256))
  | [] => some []
  | c :: rest => do
      let bytes ← encodeCodePoint c
      let tail ← encodeUtf8 rest
      pure (bytes ++ tail)

theorem encodeCodePoint_isSome (c : CodePoint) :
    (encodeCodePoint c).isSome = !c.isSurrogate := by
  unfold encodeCodePoint
  by_cases hsurrogate : c.isSurrogate = true
  · have hrange : ¬ c.val < 0x80 ∧ ¬ c.val < 0x800 := by
      simp [isSurrogate, isHighSurrogate, isLowSurrogate] at hsurrogate
      omega
    simp [hsurrogate, hrange.1, hrange.2]
  · simp only [hsurrogate, Bool.false_eq_true, if_false]
    split_ifs <;> simp

theorem encodeUtf8_isSome (s : PyStr) :
    (encodeUtf8 s).isSome = !hasSurrogate s := by
  induction s with
  | nil => rfl
  | cons c rest ih =>
      have hc := encodeCodePoint_isSome c
      simp only [hasSurrogate, List.any_cons, Bool.not_or] at ih ⊢
      rw [← ih, ← hc]
      cases hfirst : encodeCodePoint c <;>
        cases hrest : encodeUtf8 rest <;>
          simp [encodeUtf8, hfirst, hrest]

/-- ASCII text takes one byte a character. -/
theorem encodeUtf8_of_isAscii {s : PyStr} (hs : isAscii s = true) :
    ∃ data, encodeUtf8 s = some data ∧ data.length = s.length := by
  induction s with
  | nil => exact ⟨[], rfl, rfl⟩
  | cons c rest ih =>
      simp only [isAscii, List.all_cons, Bool.and_eq_true] at hs
      obtain ⟨data, hdata, hlength⟩ := ih hs.2
      have hc : c.val < 0x80 := by simpa [CodePoint.isAscii] using hs.1
      refine ⟨Fin.ofNat 256 c.val :: data, ?_, by simp [hlength]⟩
      simp [encodeUtf8, encodeCodePoint, hc, hdata]

end PyStr

end LibrarySystem
