import Mathlib.Data.List.TakeWhile
import TemplateBundler.Text.Blank

/-! # What trimming leaves

Trimming takes blanks from both ends, and leaves a text that neither begins nor ends with one.
-/

namespace TemplateBundler.Text

/-- Only blanks stand around the trimmed characters, and none at either end of them. -/
structure IsTrimmed (cs trimmed : List Char) : Prop where
  around : ∃ before behind, cs = before ++ (trimmed ++ behind) ∧
    (∀ c ∈ before, isBlank c) ∧ ∀ c ∈ behind, isBlank c
  head : ∀ c ∈ trimmed.head?, ¬ isBlank c
  last : ∀ c ∈ trimmed.getLast?, ¬ isBlank c

theorem not_isBlank_of_head?_dropWhile {cs : List Char} {c : Char}
    (h : (cs.dropWhile isBlank).head? = some c) : ¬ isBlank c := by
  have hhead := List.head?_dropWhile_not isBlank cs
  rw [h] at hhead
  simpa using hhead

theorem isTrimmed_trimChars (cs : List Char) : IsTrimmed cs (trimChars cs) := by
  let rest := cs.dropWhile isBlank
  have hrest : rest = trimChars cs ++ (rest.reverse.takeWhile isBlank).reverse := by
    rw [trimChars, ← List.reverse_append, List.takeWhile_append_dropWhile, List.reverse_reverse]
  refine ⟨⟨cs.takeWhile isBlank, (rest.reverse.takeWhile isBlank).reverse, ?_, ?_, ?_⟩, ?_, ?_⟩
  · rw [← hrest, List.takeWhile_append_dropWhile]
  · exact fun c hc => List.mem_takeWhile_imp hc
  · exact fun c hc => List.mem_takeWhile_imp (List.mem_reverse.mp hc)
  · intro c hc
    -- The trimmed text begins where the text does that only lacks the blanks in front.
    have hhead : rest.head? = some c := by
      rw [hrest, List.head?_append, hc, Option.some_or]
    exact not_isBlank_of_head?_dropWhile hhead
  · intro c hc
    rw [trimChars, List.getLast?_reverse] at hc
    exact not_isBlank_of_head?_dropWhile hc

end TemplateBundler.Text
