/-
Text made of fields.

A separator stands between fields and not after the last one, so a text has
one field more than it has separators, and the empty text is one empty field.
Splitting and joining are inverse to each other as long as no field holds the
separator.
-/

set_option autoImplicit false

namespace GssContext.Text

def fields (separator : Char) : List Char → List (List Char)
  | [] => [[]]
  | c :: rest =>
    if c = separator then [] :: fields separator rest
    else
      match fields separator rest with
      | [] => [[c]]
      | field :: others => (c :: field) :: others

/-- Fields with the separator between them. -/
def joinFields (separator : Char) : List (List Char) → List Char
  | [] => []
  | [field] => field
  | field :: rest => field ++ separator :: joinFields separator rest

theorem fields_ne_nil (separator : Char) (text : List Char) : fields separator text ≠ [] := by
  cases text with
  | nil => simp [fields]
  | cons c rest =>
    simp only [fields]
    split
    · simp
    · split <;> simp

/-- Joining undoes splitting. -/
theorem joinFields_fields (separator : Char) (text : List Char) :
    joinFields separator (fields separator text) = text := by
  induction text with
  | nil => rfl
  | cons c rest ih =>
    have nonempty := fields_ne_nil separator rest
    simp only [fields]
    split
    · next h =>
      subst h
      match hf : fields c rest, nonempty with
      | field :: others, _ => rw [hf] at ih; simp [joinFields, ih]
    · match hf : fields separator rest, nonempty with
      | [field], _ => rw [hf] at ih; simpa [joinFields] using ih
      | field :: other :: others, _ => rw [hf] at ih; simp [joinFields, ← ih]

/-- A text without the separator is one field. -/
theorem fields_of_not_mem {separator : Char} {field : List Char} (free : separator ∉ field) :
    fields separator field = [field] := by
  induction field with
  | nil => rfl
  | cons c rest ih =>
    have hc : c ≠ separator := fun hc => free (by simp [hc])
    simp [fields, hc, ih fun hm => free (by simp [hm])]

/-- The first separator ends the first field. -/
theorem fields_append {separator : Char} {field : List Char} (free : separator ∉ field)
    (rest : List Char) :
    fields separator (field ++ separator :: rest) = field :: fields separator rest := by
  induction field with
  | nil => simp [fields]
  | cons c others ih =>
    have hc : c ≠ separator := fun hc => free (by simp [hc])
    simp [fields, hc, ih fun hm => free (by simp [hm])]

/-- Splitting undoes joining when there is at least one field and none holds
the separator. -/
theorem fields_joinFields (separator : Char) (list : List (List Char)) (nonempty : list ≠ [])
    (free : ∀ field ∈ list, separator ∉ field) :
    fields separator (joinFields separator list) = list := by
  induction list with
  | nil => exact absurd rfl nonempty
  | cons field rest ih =>
    cases rest with
    | nil => exact fields_of_not_mem (free field (by simp))
    | cons other others =>
      simp only [joinFields]
      rw [fields_append (free field (by simp)), ih (by simp) fun f hf => free f (by simp [hf])]

/-- A joined text is made of its fields and, if there are two, of separators. -/
theorem mem_joinFields {separator c : Char} {list : List (List Char)} :
    c ∈ joinFields separator list ↔
      (c = separator ∧ 2 ≤ list.length) ∨ ∃ field ∈ list, c ∈ field := by
  induction list with
  | nil => simp [joinFields]
  | cons field rest ih =>
    cases rest with
    | nil => simp [joinFields]
    | cons other others =>
      rw [joinFields, List.mem_append, List.mem_cons, ih]
      · simp only [List.length_cons, List.mem_cons]
        grind
      · simp

end GssContext.Text
