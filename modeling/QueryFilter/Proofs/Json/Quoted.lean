import QueryFilter.Json.Printer
import QueryFilter.Json.Token

/-!
Quoted text is read back. The body of a quoted text does not end before its closing quote, and
stands for the text. So a printed text is one token, as each mark of punctuation is.
-/

namespace QueryFilter
namespace Json

/-- The body of a quoted text. -/
def quotedBody (text : String) : List Char := text.toList.flatMap escape

section Escapes

variable {c letter a b d e : Char} {text body rest : List Char}

theorem hexPadded_four : ∀ n < 0x20,
    ∃ a b d e, Text.hexPadded 4 n = [a, b, d, e] ∧
      ([a, b, d, e].all fun x => (Text.hexValue? x.toNat).isSome) = true ∧
      codeUnit [a, b, d, e] = n := by
  intro n hn
  refine ⟨_, _, _, _, rfl, ?_, ?_⟩
  · revert n
    decide
  · revert n
    decide

/-- A character is quoted as itself, by a letter that stands for it, or by its code unit. -/
theorem escape_cases (c : Char) :
    (escape c = [c] ∧ c ≠ '"' ∧ c ≠ '\\' ∧ ¬ c.toNat < 0x20) ∨
      (∃ letter ∈ ['"', '\\', 'b', 'f', 'n', 'r', 't'],
        escape c = ['\\', letter] ∧ escaped letter = c) ∨
      ∃ a b d e, escape c = ['\\', 'u', a, b, d, e] ∧
        ([a, b, d, e].all fun x => (Text.hexValue? x.toNat).isSome) = true ∧
        codeUnit [a, b, d, e] = c.toNat ∧ c.toNat < 0x20 := by
  by_cases hletter : c ∈ ['"', '\\', '\x08', '\x0c', '\n', '\r', '\t']
  · right
    left
    simp only [List.mem_cons, List.not_mem_nil, or_false] at hletter
    rcases hletter with rfl | rfl | rfl | rfl | rfl | rfl | rfl
    all_goals
      refine ⟨_, ?_, rfl, rfl⟩
      decide
  · simp only [List.mem_cons, List.not_mem_nil, or_false, not_or] at hletter
    by_cases hunit : c.toNat < 0x20
    · right
      right
      obtain ⟨a, b, d, e, hpadded, hdigits, hcode⟩ := hexPadded_four c.toNat hunit
      refine ⟨a, b, d, e, ?_, hdigits, hcode, hunit⟩
      simp [escape, hletter, hunit, hpadded]
    · left
      exact ⟨by simp [escape, hletter, hunit], hletter.1, hletter.2.1, hunit⟩

theorem ne_unit_of_mem (h : letter ∈ ['"', '\\', 'b', 'f', 'n', 'r', 't']) : letter ≠ 'u' := by
  rintro rfl
  exact absurd h (by decide)

theorem bodyOf?_self (hquote : c ≠ '"') (hslash : c ≠ '\\') (hprints : ¬ c.toNat < 0x20)
    {h : rest.length ≤ text.length} (hread : bodyOf? text = some (body, ⟨rest, h⟩)) :
    bodyOf? (c :: text) = some (c :: body, ⟨rest, Nat.le_succ_of_le h⟩) := by
  rw [bodyOf?]
  · simp [hslash, hprints, hread]
  · exact hquote
  · exact fun _ _ _ _ _ heq => absurd heq hslash
  · exact fun _ _ heq => absurd heq hslash

theorem bodyOf?_letter (hletter : letter ∈ ['"', '\\', 'b', 'f', 'n', 'r', 't'])
    {h : rest.length ≤ text.length} (hread : bodyOf? text = some (body, ⟨rest, h⟩)) :
    bodyOf? ('\\' :: letter :: text) =
      some ('\\' :: letter :: body, ⟨rest, Nat.le_succ_of_le (Nat.le_succ_of_le h)⟩) := by
  have hknown : letter ∈ ['"', '\\', '/', 'b', 'f', 'n', 'r', 't'] := by
    simp only [List.mem_cons] at hletter ⊢
    grind
  rw [bodyOf?, if_pos hknown]
  · simp [hread]
  · exact fun _ _ _ _ _ heq => absurd heq (ne_unit_of_mem hletter)

theorem bodyOf?_unit
    (hdigits : ([a, b, d, e].all fun x => (Text.hexValue? x.toNat).isSome) = true)
    {h : rest.length ≤ text.length} (hread : bodyOf? text = some (body, ⟨rest, h⟩)) :
    bodyOf? ('\\' :: 'u' :: a :: b :: d :: e :: text) =
      some ('\\' :: 'u' :: a :: b :: d :: e :: body,
        ⟨rest, Nat.le_trans h (Nat.le_add_right text.length 6)⟩) := by
  rw [bodyOf?, if_pos hdigits]
  simp [hread]

/-- The body of a quoted text ends at its closing quote. -/
theorem bodyOf?_quoted (text rest : List Char) :
    ∃ h, bodyOf? (text.flatMap escape ++ '"' :: rest) = some (text.flatMap escape, ⟨rest, h⟩) := by
  induction text with
  | nil => exact ⟨Nat.le_succ _, rfl⟩
  | cons c text ih =>
      obtain ⟨h, hread⟩ := ih
      rw [List.flatMap_cons]
      rcases escape_cases c with ⟨hself, hquote, hslash, hprints⟩ | ⟨letter, hletter, hescape, _⟩ |
        ⟨a, b, d, e, hescape, hdigits, _, _⟩
      · rw [hself]
        exact ⟨_, bodyOf?_self hquote hslash hprints hread⟩
      · rw [hescape]
        exact ⟨_, bodyOf?_letter hletter hread⟩
      · rw [hescape]
        exact ⟨_, bodyOf?_unit hdigits hread⟩

theorem unescape?_unit (hunit : codeUnit [a, b, d, e] < 0x20) (text : List Char) :
    unescape? ('\\' :: 'u' :: a :: b :: d :: e :: text) =
      (unescape? text).map (Char.ofNat (codeUnit [a, b, d, e]) :: ·) := by
  rw [unescape?.eq_def ('\\' :: 'u' :: a :: b :: d :: e :: text)]
  simp only []
  rw [if_neg (by omega), if_neg (by omega)]

/-- The body of a quoted text stands for the text. -/
theorem unescape?_quoted (text : List Char) : unescape? (text.flatMap escape) = some text := by
  induction text with
  | nil => rfl
  | cons c text ih =>
      rw [List.flatMap_cons]
      rcases escape_cases c with ⟨hself, _, hslash, _⟩ | ⟨letter, hletter, hescape, hstands⟩ |
        ⟨a, b, d, e, hescape, _, hcode, hunit⟩
      · rw [hself, List.singleton_append, unescape?, ih, Option.map_some]
        · exact fun _ _ _ _ _ heq => absurd heq hslash
        · exact fun _ _ heq => absurd heq hslash
      · rw [hescape, List.cons_append, List.cons_append, List.nil_append, unescape?, ih,
          Option.map_some, hstands]
        exact fun _ _ _ _ _ heq => absurd heq (ne_unit_of_mem hletter)
      · rw [hescape]
        simp only [List.cons_append, List.nil_append]
        rw [unescape?_unit (hcode ▸ hunit), ih, Option.map_some, hcode, Char.ofNat_toNat]

theorem unescape?_quotedBody (text : String) : unescape? (quotedBody text) = some text.toList :=
  unescape?_quoted text.toList

end Escapes

section Tokens

/-- A mark of punctuation is a token, wherever it stands. -/
theorem tokens_mark (mark : Char) (token : Token)
    (h : (mark, token) ∈ [('\x7b', Token.openBrace), ('\x7d', .closeBrace), ('[', .openBracket),
      (']', .closeBracket), (',', .comma), (':', .colon)])
    (rest : List Char) :
    tokens (mark :: rest) = token :: tokens rest := by
  simp only [List.mem_cons, Prod.mk.injEq, List.not_mem_nil, or_false] at h
  rcases h with ⟨rfl, rfl⟩ | ⟨rfl, rfl⟩ | ⟨rfl, rfl⟩ | ⟨rfl, rfl⟩ | ⟨rfl, rfl⟩ | ⟨rfl, rfl⟩
  all_goals
    rw [tokens]
    · rfl
    all_goals
      intro _ heq
      cases heq

theorem tokens_quote (text : String) (rest : List Char) :
    tokens ((quote text).toList ++ rest) = .string (quotedBody text) :: tokens rest := by
  obtain ⟨h, hbody⟩ := bodyOf?_quoted text.toList rest
  have hspelt : (quote text).toList ++ rest =
      '"' :: (text.toList.flatMap escape ++ '"' :: rest) := by
    simp [quote]
  rw [hspelt, tokens]
  · simp [hbody, quotedBody]
  all_goals
    intro _ heq
    cases heq

end Tokens

end Json
end QueryFilter
