import Mathlib.Data.List.Basic
import Mathlib.Data.List.TakeWhile
import StatementWalk.Text.Character

/-!
# Texts without outer blanks

A text that is stripped begins and ends with no blank, and it is what the blanks around it are taken
away to leave.
-/

namespace StatementWalk.Text

/-- Neither the first character nor the last is a blank. -/
structure Stripped (cs : List Char) : Prop where
  first : ∀ c ∈ cs.head?, isBlank c = false
  last : ∀ c ∈ cs.getLast?, isBlank c = false

theorem dropLeading_append {before core : List Char} (hbefore : ∀ c ∈ before, isBlank c = true)
    (hfirst : ∀ c ∈ core.head?, isBlank c = false) :
    dropLeading isBlank (before ++ core) = core := by
  rw [dropLeading, List.dropWhile_append_of_pos hbefore]
  cases core with
  | nil => rfl
  | cons c core => exact List.dropWhile_cons_of_neg (by simp [hfirst c rfl])

theorem dropTrailing_surplus {core after : List Char} (hafter : ∀ c ∈ after, isBlank c = true)
    (hlast : ∀ c ∈ core.getLast?, isBlank c = false) :
    dropTrailing isBlank (core ++ after) = core := by
  have hreversed : dropLeading isBlank (after.reverse ++ core.reverse) = core.reverse :=
    dropLeading_append (by simpa using hafter) (by simpa using hlast)
  rw [dropTrailing, List.reverse_append, ← dropLeading, hreversed, List.reverse_reverse]

theorem stripChars_surrounded {before core after : List Char} (hcore : Stripped core)
    (hbefore : ∀ c ∈ before, isBlank c = true) (hafter : ∀ c ∈ after, isBlank c = true) :
    stripChars (before ++ (core ++ after)) = core := by
  cases core with
  | nil =>
      have hall : ∀ c ∈ before ++ ([] ++ after), isBlank c = true := fun c hc =>
        (List.mem_append.mp hc).elim (hbefore c) (hafter c)
      rw [stripChars, trimBy, dropLeading, List.dropWhile_eq_nil_iff.mpr hall]
      rfl
  | cons c core =>
      have hfirst : ∀ x ∈ (c :: core ++ after).head?, isBlank x = false := hcore.first
      rw [stripChars, trimBy, dropLeading_append hbefore hfirst,
        dropTrailing_surplus hafter hcore.last]

theorem stripChars_blank {c : Char} (hc : isBlank c = true) (cs : List Char) :
    stripChars (c :: cs) = stripChars cs := by
  rw [stripChars, trimBy, dropLeading, List.dropWhile_cons_of_pos hc]
  rfl

theorem first_dropLeading (p : Char → Bool) (cs : List Char) :
    ∀ c ∈ (dropLeading p cs).head?, p c = false := by
  intro c hc
  have hfirst := List.head?_dropWhile_not p cs
  rw [← dropLeading, Option.mem_def.mp hc] at hfirst
  simpa using hfirst

theorem exists_stripChars (cs : List Char) :
    ∃ before after, cs = before ++ (stripChars cs ++ after) ∧ Stripped (stripChars cs) ∧
      (∀ c ∈ before, isBlank c = true) ∧ ∀ c ∈ after, isBlank c = true := by
  have hleading : cs.takeWhile isBlank ++ dropLeading isBlank cs = cs :=
    List.takeWhile_append_dropWhile
  have hfirst := first_dropLeading isBlank cs
  generalize hbody : dropLeading isBlank cs = body at hleading hfirst
  have htrailing : dropTrailing isBlank body ++ (body.reverse.takeWhile isBlank).reverse =
      body := by
    rw [dropTrailing, ← List.reverse_append, List.takeWhile_append_dropWhile, List.reverse_reverse]
  have hstrip : stripChars cs = dropTrailing isBlank body := congrArg (dropTrailing isBlank) hbody
  refine ⟨cs.takeWhile isBlank, (body.reverse.takeWhile isBlank).reverse, ?_, ⟨?_, ?_⟩, ?_, ?_⟩
  · rw [hstrip, htrailing, hleading]
  · rw [hstrip]
    intro c hc
    rw [← htrailing, List.head?_append, Option.mem_def.mp hc] at hfirst
    exact hfirst c rfl
  · rw [hstrip, dropTrailing, List.getLast?_reverse]
    exact first_dropLeading isBlank body.reverse
  · exact fun c hc => List.mem_takeWhile_imp hc
  · intro c hc
    exact List.mem_takeWhile_imp (List.mem_reverse.mp hc)

theorem stripped_stripChars (cs : List Char) : Stripped (stripChars cs) := by
  obtain ⟨-, -, -, hstripped, -⟩ := exists_stripChars cs
  exact hstripped

theorem stripChars_of_stripped {cs : List Char} (h : Stripped cs) : stripChars cs = cs := by
  have hnone : stripChars ([] ++ (cs ++ [])) = cs := stripChars_surrounded h (by simp) (by simp)
  rwa [List.nil_append, List.append_nil] at hnone

end StatementWalk.Text
