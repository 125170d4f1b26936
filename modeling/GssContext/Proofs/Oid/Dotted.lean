/-
What the dotted texts of identifiers are.

`Dotted` is the language of numerals with points between them, and `Spells` lets
blanks stand around it; neither mentions a reader. Reading goes the other way
round: it sheds blanks, cuts at every point, and only then looks for numerals. The
two agree because a numeral holds neither a blank nor a point, so the cuts can be
nowhere else.

An identifier has many texts, by blanks, pluses and zeros that change nothing. All
these freedoms are looked at apart: without blanks the text is the dotted list
itself, and each of its fields, without a plus and a superfluous zero, is what is
written for its number. So there is one plain text, and writing gives it.
-/
import GssContext.Oid.Dotted
import GssContext.Proofs.Text.Decimal
import Mathlib.Data.List.Forall2

set_option autoImplicit false

namespace GssContext

/-! ## The characters of a numeral

Reading cuts a text at blanks and at points. That a numeral has neither is all that has
to be known of its characters for this. -/

theorem Text.isBlank_of_isDigit {c : Char} (h : c.isDigit = true) : isBlank c = false := by
  have hrange := Decimal.isDigit_iff.mp h
  simp only [isBlank, Bool.or_eq_false_iff, Bool.and_eq_false_iff, beq_eq_false_iff_ne,
    decide_eq_false_iff_not]
  omega

theorem Decimal.Numeral.not_blank {text : List Char} {n : Nat} (h : Numeral text n) :
    ∀ c ∈ text, Text.isBlank c = false := by
  intro c hc
  rcases h.isDigit_or_eq_plus c hc with hdigit | rfl
  · exact Text.isBlank_of_isDigit hdigit
  · rfl

theorem Decimal.Numeral.not_mem_point {text : List Char} {n : Nat} (h : Numeral text n) :
    '.' ∉ text := by
  intro hmem
  rcases h.isDigit_or_eq_plus '.' hmem with hdigit | hplus
  · exact absurd hdigit (by decide)
  · exact absurd hplus (by decide)

namespace Oid

open Decimal (Numeral)

/-! ## The language

The texts that are meant, by how they are built. `Dotted` follows the points from the
left, as one would write the text down. That the reader finds its way back is stated for
the two cuts apart, and each of them loses nothing: what is cut off at a blank is blank,
and the fields can be joined again. -/

/-- Numerals with points between them, and the numbers that they denote. -/
inductive Dotted : List Char → List Nat → Prop where
  | last {field : List Char} {n : Nat} (hfield : Numeral field n) : Dotted field [n]
  | more {field rest : List Char} {n : Nat} {values : List Nat} (hfield : Numeral field n)
      (hrest : Dotted rest values) : Dotted (field ++ '.' :: rest) (n :: values)

/-- A text that is such a list but for blanks at both ends. -/
inductive Spells : String → List Nat → Prop where
  | padded {text : String} {before body after : List Char} {values : List Nat}
      (htext : text.toList = before ++ body ++ after)
      (hbefore : ∀ c ∈ before, Text.isBlank c = true)
      (hafter : ∀ c ∈ after, Text.isBlank c = true)
      (hbody : Dotted body values) : Spells text values

theorem Dotted.not_blank {body : List Char} {values : List Nat} (h : Dotted body values) :
    ∀ c ∈ body, Text.isBlank c = false := by
  induction h with
  | last hfield => exact hfield.not_blank
  | more hfield _ ih =>
    intro c hc
    rcases List.mem_append.mp hc with hc | hc
    · exact hfield.not_blank c hc
    · rcases List.mem_cons.mp hc with rfl | hc
      · rfl
      · exact ih c hc

/-- Fields that are numerals, joined. -/
theorem dotted_joinFields {fields : List (List Char)} {values : List Nat}
    (h : List.Forall₂ Numeral fields values) (hnonempty : fields ≠ []) :
    Dotted (Text.joinFields '.' fields) values := by
  induction h with
  | nil => exact absurd rfl hnonempty
  | cons hfield hrest ih =>
    cases hrest with
    | nil => exact .last hfield
    | cons => exact .more hfield (ih (List.cons_ne_nil _ _))

/-- **Cutting at the points** finds the numerals: none of them holds a point. -/
theorem dotted_iff_fields {body : List Char} {values : List Nat} :
    Dotted body values ↔ List.Forall₂ Numeral (Text.fields '.' body) values := by
  constructor
  · intro h
    induction h with
    | last hfield =>
      rw [Text.fields_of_not_mem hfield.not_mem_point]
      exact .cons hfield .nil
    | more hfield _ ih =>
      rw [Text.fields_append hfield.not_mem_point]
      exact .cons hfield ih
  · intro h
    rw [← Text.joinFields_fields '.' body]
    exact dotted_joinFields h (Text.fields_ne_nil '.' body)

theorem Dotted.unique {body : List Char} {values values' : List Nat} (h : Dotted body values)
    (h' : Dotted body values') : values = values' :=
  have hnumeral : Relator.RightUnique Numeral := fun _ _ _ => Numeral.unique
  hnumeral.forall₂ (dotted_iff_fields.mp h) (dotted_iff_fields.mp h')

/-- **Shedding the blanks** leaves the list: it holds none itself, so they end where it
begins. -/
theorem spells_iff {text : String} {values : List Nat} :
    Spells text values ↔ Dotted (Text.trim text.toList) values := by
  constructor
  · rintro ⟨htext, hbefore, hafter, hbody⟩
    rw [htext, Text.trim_append hbefore hbody.not_blank hafter]
    exact hbody
  · intro h
    obtain ⟨before, after, htext, hbefore, hafter⟩ := Text.exists_eq_append_trim text.toList
    exact .padded htext hbefore hafter h

theorem Spells.unique {text : String} {values values' : List Nat} (h : Spells text values)
    (h' : Spells text values') : values = values' :=
  (spells_iff.mp h).unique (spells_iff.mp h')

/-! ## Reading

A field is read if it is a numeral of a number with at most thirty-two bits, which is
what an arc is. The fields are read one after the other, and the rule for the first two
arcs is looked at in the end, on the arcs and not on the text. -/

theorem readArc_eq_ok_iff {field : List Char} {arc : UInt32} :
    readArc field = .ok arc ↔ Numeral field arc.toNat := by
  have hfits : arc.toNat ≤ 0xffffffff := Nat.le_of_lt_succ arc.toNat_lt
  unfold readArc
  constructor
  · intro h
    cases hread : Decimal.natural 0xffffffff field with
    | error e =>
      rw [hread] at h
      cases h
    | ok n =>
      rw [hread] at h
      obtain ⟨hnumeral, hle⟩ := Decimal.natural_eq_ok_iff.mp hread
      rw [← Except.ok.inj h, UInt32.toNat_ofNat', Nat.mod_eq_of_lt (Nat.lt_succ_of_le hle)]
      exact hnumeral
  · intro h
    rw [Decimal.natural_eq_ok_iff.mpr ⟨h, hfits⟩]
    dsimp only
    rw [UInt32.ofNat_toNat]

theorem readArcs_eq_ok_iff {fields : List (List Char)} {arcs : List UInt32} :
    readArcs fields = .ok arcs ↔ List.Forall₂ Numeral fields (arcs.map UInt32.toNat) := by
  induction fields generalizing arcs with
  | nil => cases arcs <;> simp [readArcs]
  | cons field fields ih =>
    simp only [readArcs, bind_eq_ok_iff, readArc_eq_ok_iff, ih]
    constructor
    · rintro ⟨arc, hfield, rest, hrest, h⟩
      obtain rfl : arc :: rest = arcs := Except.ok.inj h
      exact .cons hfield hrest
    · intro h
      cases arcs with
      | nil => cases h
      | cons arc arcs =>
        obtain ⟨hfield, hrest⟩ := List.forall₂_cons.mp h
        exact ⟨arc, hfield, arcs, hrest, rfl⟩

/-- **What is read**: the texts that spell the arcs of an identifier that keeps the rule. -/
theorem ofDotted_eq_ok_iff {text : String} {oid : Oid} :
    ofDotted text = .ok oid ↔
      Spells text (oid.arcs.map UInt32.toNat) ∧ validRoot oid.arcs = true := by
  simp only [ofDotted, bind_eq_ok_iff, readArcs_eq_ok_iff, ofArcs_eq_ok_iff, spells_iff,
    dotted_iff_fields]
  constructor
  · rintro ⟨arcs, hfields, hvalid, rfl⟩
    exact ⟨hfields, hvalid⟩
  · rintro ⟨hfields, hvalid⟩
    exact ⟨oid.arcs, hfields, hvalid, rfl⟩

/-! ## The plain text

Three clauses exclude the three freedoms: blanks, pluses, and zeros in front. What is
written keeps to all of them. Conversely each field of a plain text is the shortest
numeral of its number, which is the one that is written, and so the whole text is. -/

/-- A text without blanks and pluses, in which no number begins with a zero unless
that is all of it. -/
structure Plain (text : String) : Prop where
  blank : ∀ c ∈ text.toList, Text.isBlank c = false
  plus : '+' ∉ text.toList
  zero : ∀ field ∈ Text.fields '.' text.toList, field.head? = some '0' → field = ['0']

theorem toList_text (oid : Oid) :
    oid.text.toList = Text.joinFields '.' ((oid.arcs.map UInt32.toNat).map Decimal.ofNat) := by
  rw [text, String.toList_ofList, dottedChars, List.map_map]
  rfl

/-- What is written is cut into what is written for the arcs. -/
theorem fields_text {oid : Oid} (hnonempty : oid.arcs ≠ []) :
    Text.fields '.' oid.text.toList = (oid.arcs.map UInt32.toNat).map Decimal.ofNat := by
  rw [toList_text]
  refine Text.fields_joinFields '.' _ (by simpa using hnonempty) ?_
  intro field hfield
  obtain ⟨n, -, rfl⟩ := List.mem_map.mp hfield
  exact (Numeral.unsigned (Decimal.digitRun_ofNat n)).not_mem_point

theorem dotted_text {oid : Oid} (hnonempty : oid.arcs ≠ []) :
    Dotted oid.text.toList (oid.arcs.map UInt32.toNat) := by
  rw [dotted_iff_fields, fields_text hnonempty, List.forall₂_map_left_iff, List.forall₂_same]
  exact fun n _ => .unsigned (Decimal.digitRun_ofNat n)

theorem spells_text {oid : Oid} (hnonempty : oid.arcs ≠ []) :
    Spells oid.text (oid.arcs.map UInt32.toNat) := by
  rw [spells_iff, Text.trim_eq_self (dotted_text hnonempty).not_blank]
  exact dotted_text hnonempty

theorem plain_text {oid : Oid} (hnonempty : oid.arcs ≠ []) : Plain oid.text := by
  refine ⟨(dotted_text hnonempty).not_blank, ?_, ?_⟩
  · rw [toList_text, Text.mem_joinFields]
    rintro (⟨hplus, -⟩ | ⟨field, hfield, hplus⟩)
    · exact absurd hplus (by decide)
    · obtain ⟨n, -, rfl⟩ := List.mem_map.mp hfield
      exact (Decimal.digitRun_ofNat n).not_mem_plus hplus
  · rw [fields_text hnonempty]
    intro field hfield hzero
    obtain ⟨n, -, rfl⟩ := List.mem_map.mp hfield
    exact Decimal.ofNat_eq_zero_of_head hzero

/-- The fields of a plain text are what is written for their numbers. -/
theorem Plain.fields_eq {text : String} {values : List Nat} (h : Plain text)
    (hbody : Dotted text.toList values) :
    Text.fields '.' text.toList = values.map Decimal.ofNat := by
  rw [← List.forall₂_eq_eq_eq, List.forall₂_map_right_iff]
  have hplus : ∀ field ∈ Text.fields '.' text.toList, '+' ∉ field := by
    intro field hfield hmem
    apply h.plus
    rw [← Text.joinFields_fields '.' text.toList, Text.mem_joinFields]
    exact .inr ⟨field, hfield, hmem⟩
  have hfields := (List.forall₂_and_left _ _).mpr ⟨hplus, (List.forall₂_and_left _ _).mpr
    ⟨h.zero, dotted_iff_fields.mp hbody⟩⟩
  refine hfields.imp ?_
  -- of the freedoms of a numeral, the first clause takes the plus and the second the zeros
  rintro field n ⟨hplus, hzero, hnumeral⟩
  cases hnumeral with
  | unsigned hrun => exact hrun.eq_ofNat hzero
  | plus => exact absurd List.mem_cons_self hplus

/-- **One plain text.** A plain text that spells the arcs is what is written for them. -/
theorem Plain.eq_text {text : String} {oid : Oid} (h : Plain text)
    (hspells : Spells text (oid.arcs.map UInt32.toNat)) : text = oid.text := by
  have hbody := spells_iff.mp hspells
  rw [Text.trim_eq_self h.blank] at hbody
  rw [← String.toList_inj, toList_text, ← h.fields_eq hbody, Text.joinFields_fields]

/-! ## Texts and identifiers

The two directions put together. From an identifier to its text and back nothing
changes, as long as it keeps the rule. From a text to its identifier and back the text
becomes plain. -/

theorem ne_nil_of_validRoot {arcs : List UInt32} (h : validRoot arcs = true) : arcs ≠ [] := by
  rintro rfl
  cases h

/-- What is written for an identifier that keeps the rule is read back. -/
theorem ofDotted_text {oid : Oid} (h : validRoot oid.arcs = true) :
    ofDotted oid.text = .ok oid :=
  ofDotted_eq_ok_iff.mpr ⟨spells_text (ne_nil_of_validRoot h), h⟩

/-- What is written for an identifier that was read is plain, and no other text is that
is read as the same one. -/
theorem plain_iff_of_ofDotted {text : String} {oid : Oid} (h : ofDotted text = .ok oid) :
    Plain text ↔ text = oid.text := by
  obtain ⟨hspells, hvalid⟩ := ofDotted_eq_ok_iff.mp h
  constructor
  · exact fun hplain => hplain.eq_text hspells
  · rintro rfl
    exact plain_text (ne_nil_of_validRoot hvalid)

/-- **Dotted texts, exactly.**

An identifier made from arcs is read back from its text. Read are the texts that are,
but for blanks at both ends, numerals of thirty-two bits with points between them,
where the numbers keep the rule of the first two; a numeral is a run of digits, with
zeros in front as one likes, and perhaps a plus. The numbers are the arcs of what is
read, so two texts are read as one identifier if they spell the same numbers. Of the
texts that are read as it, what is written for it is the one without blanks, pluses
and superfluous zeros. -/
theorem dotted_exact :
    (∀ arcs oid, ofArcs arcs = .ok oid → ofDotted oid.text = .ok oid) ∧
    (∀ text, (∃ oid, ofDotted text = .ok oid) ↔
      ∃ arcs : List UInt32, Spells text (arcs.map UInt32.toNat) ∧ validRoot arcs = true) ∧
    (∀ text oid values, ofDotted text = .ok oid → Spells text values →
      oid.arcs.map UInt32.toNat = values) ∧
    (∀ text text' oid oid' values values',
      ofDotted text = .ok oid → ofDotted text' = .ok oid' →
      Spells text values → Spells text' values' → (oid = oid' ↔ values = values')) ∧
    (∀ text oid, ofDotted text = .ok oid →
      ofDotted oid.text = .ok oid ∧ Plain oid.text ∧
        ∀ text', ofDotted text' = .ok oid → Plain text' → text' = oid.text) := by
  have harcs (text : String) (oid : Oid) (values : List Nat) (h : ofDotted text = .ok oid)
      (hspells : Spells text values) : oid.arcs.map UInt32.toNat = values :=
    (ofDotted_eq_ok_iff.mp h).1.unique hspells
  refine ⟨?_, ?_, harcs, ?_, ?_⟩
  · intro arcs oid h
    obtain ⟨hvalid, rfl⟩ := ofArcs_eq_ok_iff.mp h
    exact ofDotted_text hvalid
  · intro text
    constructor
    · rintro ⟨oid, h⟩
      exact ⟨oid.arcs, ofDotted_eq_ok_iff.mp h⟩
    · rintro ⟨arcs, h⟩
      exact ⟨⟨arcs⟩, ofDotted_eq_ok_iff.mpr h⟩
  · intro text text' oid oid' values values' h h' hspells hspells'
    rw [← harcs text oid values h hspells, ← harcs text' oid' values' h' hspells']
    constructor
    · rintro rfl
      rfl
    · intro hsame
      cases oid
      cases oid'
      rw [mk.injEq]
      exact List.map_injective_iff.mpr (fun _ _ => UInt32.toNat_inj.mp) hsame
  · intro text oid h
    have hagain := ofDotted_text (ofDotted_eq_ok_iff.mp h).2
    exact ⟨hagain, (plain_iff_of_ofDotted hagain).mpr rfl,
      fun text' h' => (plain_iff_of_ofDotted h').mp⟩

/-- Blanks of two kinds, a plus, and zeros in front of the largest arc there is. -/
theorem dotted_of_decorated :
    let text := "\u3000+02.00.04294967295\t"
    let oid : Oid := ⟨[2, 0, 0xffffffff]⟩
    let other : Oid := ⟨[2, 0, 0xfffffffe]⟩
    (ofArcs [2, 0, 0xffffffff] = .ok oid ∧ ofDotted oid.text = .ok oid) ∧
      (ofDotted text = .ok oid ∧ Spells text [2, 0, 4294967295] ∧
        oid.arcs.map UInt32.toNat = [2, 0, 4294967295]) ∧
      (ofDotted "2.0.4294967294" = .ok other ∧ Spells "2.0.4294967294" [2, 0, 4294967294] ∧
        oid ≠ other) ∧
      (oid.text = "2.0.4294967295" ∧ ¬Plain text ∧
        ∀ text', ofDotted text' = .ok oid → Plain text' → text' = "2.0.4294967295") := by
  intro text oid other
  have hmade : ofArcs [2, 0, 0xffffffff] = .ok oid := by decide
  have hread : ofDotted text = .ok oid := by decide +kernel
  have hother : ofDotted "2.0.4294967294" = .ok other := by decide +kernel
  have hwritten : oid.text = "2.0.4294967295" := by decide +kernel
  have hplus : '+' ∈ text.toList := by decide +kernel
  have hspells : Spells text [2, 0, 4294967295] := (ofDotted_eq_ok_iff.mp hread).1
  have hspells' : Spells "2.0.4294967294" [2, 0, 4294967294] := (ofDotted_eq_ok_iff.mp hother).1
  obtain ⟨hback, -, harcs, hsame, hplain⟩ := dotted_exact
  refine ⟨⟨hmade, hback _ _ hmade⟩, ⟨hread, hspells, harcs _ _ _ hread hspells⟩,
    ⟨hother, hspells', ?_⟩, hwritten, fun h => h.plus hplus, ?_⟩
  · rw [ne_eq, hsame _ _ _ _ _ _ hread hother hspells hspells']
    decide
  · rw [← hwritten]
    exact (hplain text oid hread).2.2

end Oid

end GssContext
