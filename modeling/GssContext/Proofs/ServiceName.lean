/-
The written form of a service's name reads back.

A name that was read has no blank and no at sign but the one between its
parts, and its host is lowered already. So writing it and reading it again
gives the same name, and one side may send a name's written form for the other
to read.
-/
import GssContext.ServiceName
import GssContext.Text.Utf8
import Mathlib.Data.List.TakeDrop
import Mathlib.Data.List.TakeWhile

set_option autoImplicit false

namespace GssContext

/-! ## Lowering a letter

Lowering adds 32 to the twenty-six capital letters and leaves all other characters
alone. Everything that a name's host has to keep when it is lowered comes from this one
equation: it stays without blanks and at signs, and as long in bytes as it was. -/

/-- What lowering does to the number of a letter. -/
theorem toNat_toLower (c : Char) :
    c.toLower.toNat = if 65 ≤ c.toNat ∧ c.toNat ≤ 90 then c.toNat + 32 else c.toNat := by
  by_cases hupper : 65 ≤ c.toNat ∧ c.toNat ≤ 90
  · have hval : c.val ≥ 'A'.val ∧ c.val ≤ 'Z'.val := hupper
    unfold Char.toLower
    rw [if_pos hupper, dif_pos hval]
    change (c.val + 32).toNat = c.toNat + 32
    rw [UInt32.toNat_add]
    change (c.toNat + 32) % 2 ^ 32 = c.toNat + 32
    omega
  · have hval : ¬(c.val ≥ 'A'.val ∧ c.val ≤ 'Z'.val) := hupper
    unfold Char.toLower
    rw [if_neg hupper, dif_neg hval]

/-- Lowering twice is lowering. -/
theorem toLower_toLower (c : Char) : c.toLower.toLower = c.toLower := by
  apply Char.toNat_inj.mp
  rw [toNat_toLower c.toLower, toNat_toLower c]
  by_cases hupper : 65 ≤ c.toNat ∧ c.toNat ≤ 90
  · rw [if_pos hupper, if_neg (by omega)]
  · rw [if_neg hupper, if_neg hupper]

theorem toLower_eq_at_iff (c : Char) : c.toLower = '@' ↔ c = '@' := by
  rw [← Char.toNat_inj, ← Char.toNat_inj, toNat_toLower]
  change (if 65 ≤ c.toNat ∧ c.toNat ≤ 90 then c.toNat + 32 else c.toNat) = 64 ↔ c.toNat = 64
  split <;> omega

/-- Lowering makes no blank. -/
theorem isBlank_toLower (c : Char) : Text.isBlank c.toLower = Text.isBlank c := by
  by_cases hupper : 65 ≤ c.toNat ∧ c.toNat ≤ 90
  · have hlower : c.toLower.toNat = c.toNat + 32 := by rw [toNat_toLower, if_pos hupper]
    have hnot : ∀ d : Char, 65 ≤ d.toNat ∧ d.toNat ≤ 122 → Text.isBlank d = false := by
      intro d hd
      simp only [Text.isBlank, Bool.or_eq_false_iff, Bool.and_eq_false_iff, beq_eq_false_iff_ne,
        decide_eq_false_iff_not]
      omega
    rw [hnot c ⟨hupper.1, by omega⟩, hnot c.toLower ⟨by omega, by omega⟩]
  · have hsame : c.toLower = c := by
      apply Char.toNat_inj.mp
      rw [toNat_toLower, if_neg hupper]
    rw [hsame]

/-- Lowering keeps the number of bytes. -/
theorem length_encodeChar_toLower (c : Char) :
    (Utf8.encodeChar c.toLower).length = (Utf8.encodeChar c).length := by
  have hplain : ∀ d : Char, d.toNat < 0x80 → (Utf8.encodeChar d).length = 1 := by
    intro d hd
    rw [Utf8.encodeChar, if_pos hd]
    rfl
  by_cases hupper : 65 ≤ c.toNat ∧ c.toNat ≤ 90
  · have hlower : c.toLower.toNat = c.toNat + 32 := by rw [toNat_toLower, if_pos hupper]
    rw [hplain c (by omega), hplain c.toLower (by omega)]
  · have hsame : c.toLower = c := by
      apply Char.toNat_inj.mp
      rw [toNat_toLower, if_neg hupper]
    rw [hsame]

namespace ServiceName

/-! ## Reading a name, from its parts

A name has one of two forms, and for each of them it is said what is read. Then the
converse goes through the reader once: whatever is read has one of the two forms. After
this no proof has to look at the reader again. -/

/-- A part of a name: it has characters, and neither a blank nor an at sign. -/
structure IsPart (chars : List Char) : Prop where
  nonempty : chars ≠ []
  blank : chars.any Text.isBlank = false
  sign : '@' ∉ chars

/-- The characters before the first at sign, of a text that is put together from what is
before it and what begins with it. -/
theorem span_append {service rest : List Char} (hsign : '@' ∉ service)
    (hrest : rest = [] ∨ rest.head? = some '@') :
    (service ++ rest).span (· ≠ '@') = (service, rest) := by
  have hall : ∀ c ∈ service, (decide (c ≠ '@')) = true := by
    intro c hc
    exact decide_eq_true fun heq => hsign (heq ▸ hc)
  rw [List.span_eq_takeWhile_dropWhile, List.takeWhile_append_of_pos hall,
    List.dropWhile_append_of_pos hall]
  rcases hrest with rfl | hhead
  · rw [List.takeWhile_nil, List.dropWhile_nil, List.append_nil]
  · cases rest with
    | nil => cases hhead
    | cons c rest =>
      cases hhead
      simp

/-- A service alone is a name. -/
theorem parse?_service {text : String} (hservice : IsPart text.toList) :
    parse? text = some ⟨text, none⟩ := by
  have hspan := span_append hservice.sign (.inl rfl)
  rw [List.append_nil] at hspan
  rw [parse?, hservice.blank, hspan]
  cases hchars : text.toList with
  | nil => exact absurd hchars hservice.nonempty
  | cons c service =>
    have hback : String.ofList (c :: service) = text := by rw [← hchars, String.ofList_toList]
    simp only [Bool.false_eq_true, if_false, hback]

/-- A service and a host are a name, whose host is lowered. -/
theorem parse?_host {text : String} {service host : List Char}
    (htext : text.toList = service ++ '@' :: host) (hservice : IsPart service)
    (hhost : IsPart host) :
    parse? text = some ⟨String.ofList service, some (lowered host)⟩ := by
  have hblank : text.toList.any Text.isBlank = false := by
    rw [htext, List.any_append, List.any_cons, hservice.blank, hhost.blank]
    rfl
  rw [parse?, hblank, htext, span_append hservice.sign (.inr rfl)]
  cases service with
  | nil => exact absurd rfl hservice.nonempty
  | cons c service =>
    have hgood : ¬(host = [] ∨ '@' ∈ host) := by
      rintro (hnil | hmem)
      · exact hhost.nonempty hnil
      · exact hhost.sign hmem
    simp only [Bool.false_eq_true, if_false, if_neg hgood]

/-- Every name that is read comes from one of the two forms. The text is cut at its
first at sign, and the reader's checks on the two pieces are those that make them parts. -/
theorem of_parse? {text : String} {name : ServiceName} (h : parse? text = some name) :
    (name = ⟨text, none⟩ ∧ IsPart text.toList) ∨
      ∃ service host, text.toList = service ++ '@' :: host ∧ IsPart service ∧ IsPart host ∧
        name = ⟨String.ofList service, some (lowered host)⟩ := by
  have hsplit : text.toList.takeWhile (· ≠ '@') ++ text.toList.dropWhile (· ≠ '@') = text.toList :=
    List.takeWhile_append_dropWhile
  have hbefore : '@' ∉ text.toList.takeWhile (· ≠ '@') := by
    intro hmem
    have hp := List.mem_takeWhile_imp hmem
    simp at hp
  -- what is left after the service is nothing, or begins with an at sign
  have hafter := List.head?_dropWhile_not (· ≠ '@') text.toList
  unfold parse? at h
  dsimp only at h
  by_cases hblank : text.toList.any Text.isBlank = true
  · rw [if_pos hblank] at h
    cases h
  rw [if_neg hblank, List.span_eq_takeWhile_dropWhile] at h
  rw [Bool.not_eq_true, ← hsplit, List.any_append, Bool.or_eq_false_iff] at hblank
  generalize text.toList.takeWhile (· ≠ '@') = service at *
  generalize text.toList.dropWhile (· ≠ '@') = rest at *
  cases service with
  | nil => cases h
  | cons c service =>
    cases rest with
    | nil =>
      cases h
      left
      rw [List.append_nil] at hsplit
      rw [hsplit, String.ofList_toList]
      exact ⟨rfl, hsplit ▸ List.cons_ne_nil _ _, hsplit ▸ hblank.1, hsplit ▸ hbefore⟩
    | cons d host =>
      have hd : d = '@' := by simpa using hafter
      subst hd
      dsimp only at h
      split at h
      · cases h
      · rename_i hgood
        cases h
        rw [not_or] at hgood
        have hhost : host.any Text.isBlank = false := by
          have htail := hblank.2
          rw [List.any_cons, Bool.or_eq_false_iff] at htail
          exact htail.2
        exact .inr ⟨c :: service, host, hsplit.symm, ⟨List.cons_ne_nil _ _, hblank.1, hbefore⟩,
          ⟨hgood.1, hhost, hgood.2⟩, rfl⟩

theorem toList_text_host (service host : List Char) :
    (ServiceName.text ⟨String.ofList service, some (lowered host)⟩).toList =
      service ++ '@' :: host.map Char.toLower := by
  simp [ServiceName.text, lowered]

/-- A name is read without a status if it can be read. -/
theorem parse_eq_ok_iff {text : String} {name : ServiceName} :
    parse text = .ok name ↔ parse? text = some name := by
  rw [parse]
  cases parse? text with
  | none => exact iff_of_false nofun nofun
  | some found => rw [Except.ok.injEq, Option.some.injEq]

/-- **The written form reads back.** It has the form that was read, with a host that is
lowered already, and a lowered host is again one that may stand in a name. -/
theorem parse?_text {text : String} {name : ServiceName} (h : parse? text = some name) :
    parse? name.text = some name := by
  rcases of_parse? h with ⟨rfl, hpart⟩ | ⟨service, host, htext, hservice, hhost, rfl⟩
  · exact parse?_service hpart
  · -- what was read has a lowered host, which is a part of a name as the host was
    have hlowered : IsPart (host.map Char.toLower) := by
      refine ⟨?_, ?_, ?_⟩
      · rw [ne_eq, List.map_eq_nil_iff]
        exact hhost.nonempty
      · rw [List.any_map]
        have hsame : Text.isBlank ∘ Char.toLower = Text.isBlank := funext isBlank_toLower
        rw [hsame]
        exact hhost.blank
      · intro hmem
        obtain ⟨c, hc, hlower⟩ := List.mem_map.mp hmem
        exact hhost.sign ((toLower_eq_at_iff c).mp hlower ▸ hc)
    have hagain : lowered (host.map Char.toLower) = lowered host := by
      rw [lowered, List.map_map, lowered]
      have hsame : Char.toLower ∘ Char.toLower = Char.toLower := funext toLower_toLower
      rw [hsame]
    rw [parse?_host (toList_text_host service host) hservice hlowered, hagain]

/-- The written form has as many bytes as what was read, since lowering a letter keeps
the number of its bytes and the rest is the same text. -/
theorem length_encode_text {text : String} {name : ServiceName} (h : parse? text = some name) :
    (Utf8.encode name.text).length = (Utf8.encode text).length := by
  rcases of_parse? h with ⟨rfl, -⟩ | ⟨service, host, htext, -, -, rfl⟩
  · rfl
  · have hhost : ((host.map Char.toLower).flatMap Utf8.encodeChar).length =
        (host.flatMap Utf8.encodeChar).length := by
      clear htext h
      induction host with
      | nil => rfl
      | cons c host ih =>
        rw [List.map_cons, List.flatMap_cons, List.flatMap_cons, List.length_append,
          List.length_append, length_encodeChar_toLower, ih]
    rw [Utf8.encode, Utf8.encode, toList_text_host, htext]
    simp only [List.flatMap_append, List.flatMap_cons, List.length_append, hhost]

end ServiceName

end GssContext
