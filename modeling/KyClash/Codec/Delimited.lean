import Mathlib.Data.List.Basic

/-!
# Delimited codes

In a delimited code a reader can tell where a word ends, whatever follows it.
A field with a terminator that does not occur in it is delimited, and a stream
of words of a delimited code has only one reading.
-/

variable {α β : Type}

/-- Whatever follows a word, its value and what follows can be told. -/
def Delimited (encode : α → List β) : Prop :=
  ∀ {first second : α} {rest other : List β},
    encode first ++ rest = encode second ++ other →
      first = second ∧ rest = other

namespace Delimited

/-- A list has only one part before its first `stop`. -/
theorem cut_inj {stop : β} {first second rest other : List β}
    (ends : stop ∉ first) (stops : stop ∉ second)
    (same : first ++ stop :: rest = second ++ stop :: other) :
    first = second ∧ rest = other := by
  induction first generalizing second with
  | nil =>
    cases second with
    | nil => exact ⟨rfl, (List.cons.inj same).2⟩
    | cons item second =>
      obtain ⟨rfl, -⟩ := List.cons.inj same
      exact absurd List.mem_cons_self stops
  | cons item first ih =>
    cases second with
    | nil =>
      obtain ⟨rfl, -⟩ := List.cons.inj same
      exact absurd List.mem_cons_self ends
    | cons head second =>
      obtain ⟨rfl, tails⟩ := List.cons.inj same
      obtain ⟨rfl, rfl⟩ := ih (List.not_mem_of_not_mem_cons ends)
        (List.not_mem_of_not_mem_cons stops) tails
      exact ⟨rfl, rfl⟩

variable {encode : α → List β}

theorem terminated {stop : β} (injective : Function.Injective encode)
    (absent : ∀ value, stop ∉ encode value) :
    Delimited fun value => encode value ++ [stop] := by
  intro first second rest other same
  simp only [List.append_assoc, List.singleton_append] at same
  obtain ⟨words, rests⟩ := cut_inj (absent first) (absent second) same
  exact ⟨injective words, rests⟩

/-- Two streams of the same items are streams of the same words. -/
theorem flatMap_injective (delimited : Delimited encode)
    (nonempty : ∀ value, encode value ≠ []) :
    Function.Injective (List.flatMap encode) := by
  intro first
  induction first with
  | nil =>
    intro second same
    cases second with
    | nil => rfl
    | cons value second =>
      exact absurd (List.append_eq_nil_iff.mp same.symm).1 (nonempty value)
  | cons value first ih =>
    intro second same
    cases second with
    | nil => exact absurd (List.append_eq_nil_iff.mp same).1 (nonempty value)
    | cons other second =>
      obtain ⟨rfl, rest⟩ := delimited same
      rw [ih rest]

end Delimited
