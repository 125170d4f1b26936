/-
White space.

The set is the Unicode property White_Space, which holds more than the ASCII
blanks: the next-line control, the no-break space, the spaces of the general
punctuation block and the two separators. Names refuse these characters
anywhere; numbers and key files shed them at both ends.
-/

set_option autoImplicit false

namespace GssContext.Text

def isBlank (c : Char) : Bool :=
  let n := c.toNat
  (9 ≤ n && n ≤ 13) || n == 0x20 || n == 0x85 || n == 0xa0 || n == 0x1680 ||
    (0x2000 ≤ n && n ≤ 0x200a) || n == 0x2028 || n == 0x2029 || n == 0x202f ||
    n == 0x205f || n == 0x3000

/-- Characters without the blanks at both ends. -/
def trim (text : List Char) : List Char :=
  ((text.dropWhile isBlank).reverse.dropWhile isBlank).reverse

/-- Nothing is left of a text of blanks. -/
theorem trim_eq_nil_of_blank (text : List Char) (h : ∀ c ∈ text, isBlank c = true) :
    trim text = [] := by
  have : text.dropWhile isBlank = [] := by
    induction text with
    | nil => rfl
    | cons c rest ih =>
      rw [List.dropWhile_cons, if_pos (h c (by simp))]
      exact ih fun d hd => h d (by simp [hd])
  simp [trim, this]

/-- Only blanks are shed. -/
theorem exists_eq_append_trim (text : List Char) :
    ∃ before after, text = before ++ trim text ++ after ∧
      (∀ c ∈ before, isBlank c = true) ∧ ∀ c ∈ after, isBlank c = true := by
  have hback := List.takeWhile_append_dropWhile (p := isBlank)
    (l := (text.dropWhile isBlank).reverse)
  have hrest : text.dropWhile isBlank =
      trim text ++ ((text.dropWhile isBlank).reverse.takeWhile isBlank).reverse := by
    rw [trim, ← List.reverse_append, hback, List.reverse_reverse]
  refine ⟨text.takeWhile isBlank, ((text.dropWhile isBlank).reverse.takeWhile isBlank).reverse,
    ?_, ?_, ?_⟩
  · rw [List.append_assoc, ← hrest, List.takeWhile_append_dropWhile]
  · exact List.all_eq_true.mp List.all_takeWhile
  · intro c hc
    exact List.all_eq_true.mp List.all_takeWhile c (List.mem_reverse.mp hc)

/-- Blanks around a text that holds none are all shed. -/
theorem trim_append {before body after : List Char} (hbefore : ∀ c ∈ before, isBlank c = true)
    (hbody : ∀ c ∈ body, isBlank c = false) (hafter : ∀ c ∈ after, isBlank c = true) :
    trim (before ++ body ++ after) = body := by
  by_cases hnil : body = []
  · rw [hnil]
    refine trim_eq_nil_of_blank _ fun c hc => ?_
    rw [List.append_nil, List.mem_append] at hc
    exact hc.elim (hbefore c) (hafter c)
  · have hkept (text rest : List Char) (hnonempty : text ≠ [])
        (hblank : ∀ c ∈ text, isBlank c = false) :
        (text ++ rest).dropWhile isBlank = text ++ rest := by
      cases text with
      | nil => exact absurd rfl hnonempty
      | cons c text =>
        exact List.dropWhile_cons_of_neg (Bool.eq_false_iff.mp (hblank c List.mem_cons_self))
    have hback : body.reverse.dropWhile isBlank = body.reverse := by
      have hall : ∀ c ∈ body.reverse, isBlank c = false := fun c hc =>
        hbody c (List.mem_reverse.mp hc)
      simpa using hkept body.reverse [] (by simpa using hnil) hall
    rw [trim, List.append_assoc, List.dropWhile_append_of_pos hbefore, hkept body after hnil hbody,
      List.reverse_append,
      List.dropWhile_append_of_pos fun c hc => hafter c (List.mem_reverse.mp hc), hback,
      List.reverse_reverse]

theorem trim_eq_self {text : List Char} (h : ∀ c ∈ text, isBlank c = false) : trim text = text := by
  simpa using trim_append (List.forall_mem_nil _) h (List.forall_mem_nil _)

end GssContext.Text
