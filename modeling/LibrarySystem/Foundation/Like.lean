import Mathlib.Data.List.Infix
import Mathlib.Tactic

/-!
# Wildcard patterns

The matcher of SQL's `LIKE`: a character for any sequence, one for any single character,
and an escape that takes the next character literally.  A text whose special characters
are escaped, between two sequence wildcards, matches the texts it occurs in.
-/

namespace LibrarySystem

namespace Like

variable {α : Type} [DecidableEq α]

/-- The special characters of a pattern. -/
structure Wildcards (α : Type) where
  sequence : α
  single : α
  escape : α
  sequence_ne_escape : sequence ≠ escape

inductive Token (α : Type)
  | literal (c : α)
  | sequence
  | single
deriving DecidableEq

/-- The tokens of a pattern; one that ends with the escape is an error. -/
def tokens (wild : Wildcards α) : List α → Option (List (Token α))
  | [] => some []
  | c :: rest =>
      if c = wild.escape then
        match rest with
        | [] => none
        | d :: rest => (tokens wild rest).map (Token.literal d :: ·)
      else if c = wild.sequence then (tokens wild rest).map (Token.sequence :: ·)
      else if c = wild.single then (tokens wild rest).map (Token.single :: ·)
      else (tokens wild rest).map (Token.literal c :: ·)

/-- Whether the whole text matches. -/
def matchTokens : List (Token α) → List α → Bool
  | [], text => text.isEmpty
  | .literal c :: rest, text =>
      match text with
      | [] => false
      | d :: text => decide (d = c) && matchTokens rest text
  | .single :: rest, text =>
      match text with
      | [] => false
      | _ :: text => matchTokens rest text
  | .sequence :: rest, text => text.tails.any (matchTokens rest)

/-- `text LIKE pattern`, `none` when the pattern ends with its escape. -/
def like (wild : Wildcards α) (pattern text : List α) : Option Bool :=
  (tokens wild pattern).map fun read => matchTokens read text

/-- A character that is no wildcard, as it is written in a pattern. -/
def escaped (wild : Wildcards α) (c : α) : List α :=
  if c = wild.escape ∨ c = wild.sequence ∨ c = wild.single then [wild.escape, c] else [c]

variable (wild : Wildcards α)

/-- An escaped character is read as itself. -/
theorem tokens_escaped_append (c : α) (rest : List α) :
    tokens wild (escaped wild c ++ rest) = (tokens wild rest).map (Token.literal c :: ·) := by
  unfold escaped
  split
  · rw [List.cons_append, List.singleton_append, tokens, if_pos rfl]
  · rename_i hplain
    push Not at hplain
    rw [List.singleton_append, tokens.eq_def]
    simp only [hplain.1, hplain.2.1, hplain.2.2, if_false]

theorem tokens_flatMap_escaped (text rest : List α) :
    tokens wild (text.flatMap (escaped wild) ++ rest) =
      (tokens wild rest).map (text.map Token.literal ++ ·) := by
  induction text with
  | nil => simp
  | cons c text ih =>
      rw [List.flatMap_cons, List.append_assoc, tokens_escaped_append, ih]
      simp [Function.comp_def]

theorem tokens_sequence (rest : List α) :
    tokens wild (wild.sequence :: rest) = (tokens wild rest).map (Token.sequence :: ·) := by
  rw [tokens.eq_def]
  simp only [wild.sequence_ne_escape, if_false, if_true]

/-- Literals before a sequence wildcard match what begins with them. -/
theorem matchTokens_starts (literals text : List α) :
    matchTokens (literals.map Token.literal ++ [.sequence]) text = true ↔ literals <+: text := by
  induction literals generalizing text with
  | nil => simp [matchTokens]
  | cons c literals ih =>
      cases text with
      | nil => simp [matchTokens]
      | cons d text =>
          rw [List.map_cons, List.cons_append, matchTokens, Bool.and_eq_true, decide_eq_true_eq,
            ih, List.cons_prefix_cons]
          exact and_congr_left fun _ => eq_comm

/-- Between two sequence wildcards they match what they occur in. -/
theorem matchTokens_occurs (literals text : List α) :
    matchTokens (.sequence :: (literals.map Token.literal ++ [.sequence])) text = true ↔
      literals <:+: text := by
  rw [matchTokens, List.any_eq_true]
  constructor
  · rintro ⟨suffix, hsuffix, hmatch⟩
    have hstarts := (matchTokens_starts literals suffix).mp hmatch
    exact hstarts.isInfix.trans ((List.mem_tails _ _).mp hsuffix).isInfix
  · intro hoccurs
    obtain ⟨suffix, hstarts, hsuffix⟩ := List.infix_iff_prefix_suffix.mp hoccurs
    exact ⟨suffix, (List.mem_tails _ _).mpr hsuffix,
      (matchTokens_starts literals suffix).mpr hstarts⟩

/-- The pattern of a substring search. -/
theorem like_infix (literals text : List α) :
    like wild (wild.sequence :: (literals.flatMap (escaped wild) ++ [wild.sequence])) text =
      some (decide (literals <:+: text)) := by
  have htokens : tokens wild
      (wild.sequence :: (literals.flatMap (escaped wild) ++ [wild.sequence])) =
        some (.sequence :: (literals.map Token.literal ++ [.sequence])) := by
    rw [tokens_sequence, tokens_flatMap_escaped, tokens_sequence]
    rfl
  rw [like, htokens, Option.map_some, Option.some.injEq, Bool.eq_iff_iff, decide_eq_true_eq]
  exact matchTokens_occurs literals text

end Like

end LibrarySystem
