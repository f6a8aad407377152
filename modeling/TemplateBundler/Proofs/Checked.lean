import TemplateBundler.Schema.Basic

/-! # Operations that might fault

Arithmetic on words of 64 bits and the reading of lists are not total where they run: a sum may be
no word, a difference may be less than zero, and there may be nothing in a place. Here such a run
ends in a fault. That it does not is shown by comparing it with the total operations.
-/

namespace TemplateBundler

/-- What ends a run without an answer. -/
inductive Fault where
  /-- A sum is no word. -/
  | overflow
  /-- A difference is less than zero. -/
  | underflow
  /-- A list has no such entry, or a text no such part. -/
  | outOfBounds
  deriving DecidableEq, Repr

namespace Checked

variable {α β : Type} {sure : Prop} {run : Except Fault α} {next : α → Except Fault β} {first : α}
  {answer : β} {a b place : Nat} {entries : List Nat}

/-- A run ends with the answer. Only one that is not sure to do so may meet a sum that is no word,
and none meets another fault. -/
def Ends (sure : Prop) (run : Except Fault α) (answer : α) : Prop :=
  run = .ok answer ∨ run = .error .overflow ∧ ¬ sure

theorem ends_pure (first : α) : Ends sure (pure first) first := .inl rfl

theorem Ends.bind (h : Ends sure run first) (hnext : Ends sure (next first) answer) :
    Ends sure (run >>= next) answer := by
  obtain rfl | ⟨rfl, hunsure⟩ := h
  · exact hnext
  · exact .inr ⟨rfl, hunsure⟩

theorem Ends.eq_ok (h : Ends sure run first) (hsure : sure) : run = .ok first := by
  obtain hrun | ⟨-, hunsure⟩ := h
  · exact hrun
  · exact absurd hsure hunsure

/-! ## Operations -/

def add (a b : Nat) : Except Fault Nat :=
  if a + b ≤ maxNatural then .ok (a + b) else .error .overflow

def sub (a b : Nat) : Except Fault Nat := if b ≤ a then .ok (a - b) else .error .underflow

/-- The entry at a place, which has to be there. -/
def entry (entries : List Nat) (place : Nat) : Except Fault Nat :=
  match entries[place]? with
  | some entry => .ok entry
  | none => .error .outOfBounds

theorem ends_add (h : sure → a + b ≤ maxNatural) : Ends sure (add a b) (a + b) := by
  by_cases hword : a + b ≤ maxNatural
  · exact .inl (if_pos hword)
  · exact .inr ⟨if_neg hword, fun hsure => hword (h hsure)⟩

theorem ends_sub (h : b ≤ a) : Ends sure (sub a b) (a - b) := .inl (if_pos h)

theorem ends_entry (h : place < entries.length) :
    Ends sure (entry entries place) entries[place] := by
  rw [entry, List.getElem?_eq_getElem h]
  exact ends_pure _

end Checked

end TemplateBundler
