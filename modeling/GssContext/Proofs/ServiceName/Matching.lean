/-
Which texts are names, which of them are one name, and which name matches which.

Three views of a name meet here: the text that somebody writes, the name that is
read from it, and the set of names that it stands for. The first section says of
letters when they differ in case only, and the second says in terms of the text
alone what its two parts are; neither mentions reading. Reading is then described
by them, exactly, and what two texts have in common if they are read alike follows
from that.

Matching has one equation, `accepts_iff`, from which its laws follow. It is an
order in which a name without a host is below all names of its service, and names
with a host have nothing above them but themselves.
-/
import GssContext.Proofs.ServiceName
import Mathlib.Data.List.Forall2

set_option autoImplicit false

namespace GssContext

/-! ## Letters that differ in case only

A relation between characters that does not speak of lowering: they are the same, or one
is a capital letter of the ASCII alphabet and the other one its small one. Of letters
outside of this alphabet each is related to itself only. -/

namespace Text

/-- The same character, or a capital letter of the ASCII alphabet and its small one. -/
inductive SameLetter : Char → Char → Prop where
  | refl (c : Char) : SameLetter c c
  | lowered {c d : Char} : 65 ≤ c.toNat → c.toNat ≤ 90 → d.toNat = c.toNat + 32 → SameLetter c d
  | raised {c d : Char} : 65 ≤ d.toNat → d.toNat ≤ 90 → c.toNat = d.toNat + 32 → SameLetter c d

/-- Two texts that differ in the case of ASCII letters only. -/
def SameUpToCase (a b : List Char) : Prop := List.Forall₂ SameLetter a b

/-- Lowering leaves of a letter what its case does not decide. A lowered capital letter
is a small one, so no capital letter is what another character is lowered to. -/
theorem toLower_eq_toLower_iff (c d : Char) : c.toLower = d.toLower ↔ SameLetter c d := by
  rw [← Char.toNat_inj, toNat_toLower, toNat_toLower]
  constructor
  · intro h
    -- which of the two is a capital letter decides which of the three cases it is
    by_cases hc : 65 ≤ c.toNat ∧ c.toNat ≤ 90
    · by_cases hd : 65 ≤ d.toNat ∧ d.toNat ≤ 90
      · rw [if_pos hc, if_pos hd] at h
        obtain rfl : c = d := Char.toNat_inj.mp (Nat.add_right_cancel h)
        exact .refl c
      · rw [if_pos hc, if_neg hd] at h
        exact .lowered hc.1 hc.2 h.symm
    · by_cases hd : 65 ≤ d.toNat ∧ d.toNat ≤ 90
      · rw [if_neg hc, if_pos hd] at h
        exact .raised hd.1 hd.2 h
      · rw [if_neg hc, if_neg hd] at h
        obtain rfl : c = d := Char.toNat_inj.mp h
        exact .refl c
  · intro h
    cases h with
    | refl => rfl
    | lowered hlow hhigh hnext => rw [if_pos ⟨hlow, hhigh⟩, if_neg (by omega), hnext]
    | raised hlow hhigh hnext => rw [if_neg (by omega), if_pos ⟨hlow, hhigh⟩, hnext]

theorem map_toLower_eq_iff (a b : List Char) :
    a.map Char.toLower = b.map Char.toLower ↔ SameUpToCase a b := by
  have hpairs : SameUpToCase a b ↔ List.Forall₂ (fun c d => c.toLower = d.toLower) a b := by
    simp only [SameUpToCase, toLower_eq_toLower_iff]
  rw [hpairs, ← List.forall₂_eq_eq_eq, List.forall₂_map_left_iff, List.forall₂_map_right_iff]

end Text

namespace ServiceName

/-! ## The parts of a text

Any text is divided by its first at sign, whether it is a name or not. This makes the
parts functions of the text, and with them it can be said which texts are admissible:
there is nothing blank, not more than one sign, and no part that is there and empty. -/

/-- What is in front of the first at sign, or the whole text if there is none. -/
def servicePart (text : String) : List Char := text.toList.takeWhile (· ≠ '@')

/-- What comes after the first at sign, if there is one. -/
def hostPart? (text : String) : Option (List Char) :=
  match text.toList.dropWhile (· ≠ '@') with
  | [] => none
  | _ :: host => some host

/-- A text that can be a name. -/
structure Admissible (text : String) : Prop where
  blank : ∀ c ∈ text.toList, Text.isBlank c = false
  sign : text.toList.count '@' ≤ 1
  service : servicePart text ≠ []
  host : hostPart? text ≠ some []

/-- A text without an at sign is all service. -/
theorem parts_of_not_mem {text : String} (hsign : '@' ∉ text.toList) :
    servicePart text = text.toList ∧ hostPart? text = none := by
  have hspan := span_append hsign (.inl rfl)
  rw [List.append_nil, List.span_eq_takeWhile_dropWhile, Prod.mk.injEq] at hspan
  rw [servicePart, hostPart?, hspan.1, hspan.2]
  exact ⟨rfl, rfl⟩

/-- The first at sign divides a text. -/
theorem parts_of_append {text : String} {service host : List Char}
    (htext : text.toList = service ++ '@' :: host) (hsign : '@' ∉ service) :
    servicePart text = service ∧ hostPart? text = some host := by
  have hspan : (service ++ '@' :: host).span (· ≠ '@') = (service, '@' :: host) :=
    span_append hsign (.inr rfl)
  rw [← htext, List.span_eq_takeWhile_dropWhile, Prod.mk.injEq] at hspan
  rw [servicePart, hostPart?, hspan.1, hspan.2]
  exact ⟨rfl, rfl⟩

/-! ## Reading, by the parts

An admissible text has one of the two forms that a name can have, and what is read from
it is made of its parts. So reading is described without a search, and two texts are
compared by comparing their parts. -/

/-- What is read from a text is the service part, and the host part lowered. -/
def ofParts (text : String) : ServiceName :=
  ⟨String.ofList (servicePart text), (hostPart? text).map lowered⟩

theorem isPart_of {chars : List Char} (hnonempty : chars ≠ [])
    (hblank : ∀ c ∈ chars, Text.isBlank c = false) (hsign : '@' ∉ chars) : IsPart chars :=
  ⟨hnonempty, List.any_eq_false.mpr fun c hc => by rw [hblank c hc]; exact Bool.false_ne_true, hsign⟩

theorem IsPart.not_blank {chars : List Char} (h : IsPart chars) :
    ∀ c ∈ chars, Text.isBlank c = false := fun c hc =>
  Bool.eq_false_iff.mpr (List.any_eq_false.mp h.blank c hc)

theorem ofParts_of_not_mem {text : String} (hsign : '@' ∉ text.toList) :
    ofParts text = ⟨text, none⟩ := by
  obtain ⟨hparts, hnone⟩ := parts_of_not_mem hsign
  rw [ofParts, hparts, hnone, String.ofList_toList]
  rfl

theorem ofParts_of_append {text : String} {service host : List Char}
    (htext : text.toList = service ++ '@' :: host) (hsign : '@' ∉ service) :
    ofParts text = ⟨String.ofList service, some (lowered host)⟩ := by
  obtain ⟨hparts, hsome⟩ := parts_of_append htext hsign
  rw [ofParts, hparts, hsome]
  rfl

/-- A part can be a name by itself. -/
theorem IsPart.admissible {text : String} (h : IsPart text.toList) : Admissible text := by
  obtain ⟨hparts, hnone⟩ := parts_of_not_mem h.sign
  refine ⟨h.not_blank, ?_, ?_, ?_⟩
  · rw [List.count_eq_zero_of_not_mem h.sign]
    exact Nat.zero_le 1
  · rw [hparts]
    exact h.nonempty
  · rw [hnone]
    exact (Option.some_ne_none []).symm

/-- So can two of them, with an at sign between them. The sign is then the first one and
the only one, as no part has any. -/
theorem admissible_of_append {text : String} {service host : List Char}
    (htext : text.toList = service ++ '@' :: host) (hservice : IsPart service)
    (hhost : IsPart host) : Admissible text := by
  obtain ⟨hparts, hsome⟩ := parts_of_append htext hservice.sign
  refine ⟨?_, ?_, ?_, ?_⟩
  · intro c hc
    rw [htext, List.mem_append, List.mem_cons] at hc
    rcases hc with hc | rfl | hc
    · exact hservice.not_blank c hc
    · rfl
    · exact hhost.not_blank c hc
  · rw [htext, List.count_append, List.count_cons_self,
      List.count_eq_zero_of_not_mem hservice.sign, List.count_eq_zero_of_not_mem hhost.sign]
  · rw [hparts]
    exact hservice.nonempty
  · rw [hsome]
    exact fun hnil => hhost.nonempty (Option.some.inj hnil)

/-- Nothing else can: behind the first at sign there is no second one. -/
theorem Admissible.forms {text : String} (h : Admissible text) :
    IsPart text.toList ∨ ∃ service host, text.toList = service ++ '@' :: host ∧
      IsPart service ∧ IsPart host := by
  by_cases hmem : '@' ∈ text.toList
  · obtain ⟨service, host, htext, hbefore⟩ := List.eq_append_cons_of_mem hmem
    obtain ⟨hparts, hsome⟩ := parts_of_append htext hbefore
    have hblank (c : Char) (hc : c ∈ service ++ '@' :: host) : Text.isBlank c = false :=
      h.blank c (htext ▸ hc)
    have hone : host.count '@' = 0 := by
      have hcount := h.sign
      rw [htext, List.count_append, List.count_cons_self] at hcount
      omega
    have hservice : IsPart service := isPart_of (hparts ▸ h.service)
      (fun c hc => hblank c (List.mem_append_left _ hc)) hbefore
    have hhost : IsPart host := isPart_of (fun hnil => h.host (hnil ▸ hsome))
      (fun c hc => hblank c (List.mem_append_right _ (List.mem_cons_of_mem _ hc)))
      (List.count_eq_zero.mp hone)
    exact .inr ⟨service, host, htext, hservice, hhost⟩
  · exact .inl (isPart_of ((parts_of_not_mem hmem).1 ▸ h.service) h.blank hmem)

/-- **Reading is exact.** A text is read if it is admissible, and as its parts say. -/
theorem parse_eq_ok_iff_parts {text : String} {name : ServiceName} :
    parse text = .ok name ↔ Admissible text ∧ name = ofParts text := by
  rw [parse_eq_ok_iff]
  constructor
  · intro h
    rcases of_parse? h with ⟨rfl, hpart⟩ | ⟨service, host, htext, hservice, hhost, rfl⟩
    · exact ⟨hpart.admissible, (ofParts_of_not_mem hpart.sign).symm⟩
    · exact ⟨admissible_of_append htext hservice hhost,
        (ofParts_of_append htext hservice.sign).symm⟩
  · rintro ⟨h, rfl⟩
    rcases h.forms with hpart | ⟨service, host, htext, hservice, hhost⟩
    · rw [parse?_service hpart, ofParts_of_not_mem hpart.sign]
    · rw [parse?_host htext hservice hhost, ofParts_of_append htext hservice.sign]

/-- Hosts are the same once they are lowered if they are absent from both sides, or
the same but for case. -/
theorem map_lowered_eq_iff (host host' : Option (List Char)) :
    host.map lowered = host'.map lowered ↔ Option.Rel Text.SameUpToCase host host' := by
  have hlowered (a b : List Char) : lowered a = lowered b ↔ Text.SameUpToCase a b := by
    rw [lowered, lowered, String.ofList_inj, Text.map_toLower_eq_iff]
  constructor
  · intro h
    cases host with
    | none =>
      rw [Option.map_eq_none_iff.mp h.symm]
      exact .none
    | some a =>
      obtain ⟨b, rfl, hb⟩ := Option.map_eq_some_iff.mp h.symm
      exact .some ((hlowered a b).mp hb.symm)
  · intro h
    cases h with
    | none => rfl
    | some hsame => rw [Option.map_some, Option.map_some, (hlowered ..).mpr hsame]

/-- Two texts have the same parts to read if their services are equal and their
hosts are, but for the case of letters. -/
theorem ofParts_eq_iff (text text' : String) :
    ofParts text = ofParts text' ↔
      servicePart text = servicePart text' ∧
        Option.Rel Text.SameUpToCase (hostPart? text) (hostPart? text') := by
  rw [ofParts, ofParts, ServiceName.mk.injEq, String.ofList_inj, map_lowered_eq_iff]

/-! ## Matching

A name without a host stands for all names of its service, and a name with a host for
itself. One name matches another one if it stands for it. Since the names that a name
stands for are all it says, this is an order, and what is above a name can be listed. -/

/-- A name matches what has its service, and its host if it has one. -/
theorem accepts_iff (name other : ServiceName) :
    name.accepts other = true ↔
      name.service = other.service ∧ (name.host = none ∨ name.host = other.host) := by
  rw [accepts, Bool.and_eq_true, beq_iff_eq]
  refine and_congr_right fun _ => ?_
  cases name.host with
  | none => exact iff_of_true rfl (.inl rfl)
  | some host =>
    rw [beq_iff_eq, eq_comm]
    exact ⟨.inr, fun h => h.resolve_left nofun⟩

theorem accepts_trans {a b c : ServiceName} (hab : a.accepts b = true)
    (hbc : b.accepts c = true) : a.accepts c = true := by
  rw [accepts_iff] at hab hbc ⊢
  refine ⟨hab.1.trans hbc.1, ?_⟩
  rcases hab.2 with hany | hhost
  · exact .inl hany
  · rw [hhost]
    exact hbc.2

/-- Names that match each other are one name: if one of them had no host, the other
would have to be without one too. -/
theorem accepts_antisymm {a b : ServiceName} (hab : a.accepts b = true)
    (hba : b.accepts a = true) : a = b := by
  rw [accepts_iff] at hab hba
  have hhost : a.host = b.host := by
    rcases hab.2 with hany | hhost
    · rcases hba.2 with hany' | hhost
      · rw [hany, hany']
      · exact hhost.symm
    · exact hhost
  cases a
  cases b
  rw [ServiceName.mk.injEq]
  exact ⟨hab.1, hhost⟩

/-- A name with a host is matched by itself, and by its service on any host. -/
theorem accepts_iff_of_host {name : ServiceName} (hhost : name.host ≠ none)
    (other : ServiceName) :
    other.accepts name = true ↔ other = name ∨ other = ⟨name.service, none⟩ := by
  rw [accepts_iff]
  constructor
  · rintro ⟨hservice, hany | hsame⟩
    · right
      cases other
      rw [ServiceName.mk.injEq]
      exact ⟨hservice, hany⟩
    · left
      cases other
      cases name
      rw [ServiceName.mk.injEq]
      exact ⟨hservice, hsame⟩
  · rintro (rfl | rfl)
    · exact ⟨rfl, .inr rfl⟩
    · exact ⟨rfl, .inl rfl⟩

/-- The service of a name that was read is a name itself. -/
theorem parse_service {text : String} {name : ServiceName} (h : parse text = .ok name) :
    parse name.service = .ok ⟨name.service, none⟩ := by
  rw [parse_eq_ok_iff] at h ⊢
  rcases of_parse? h with ⟨rfl, hpart⟩ | ⟨service, host, -, hservice, -, rfl⟩
  · exact parse?_service hpart
  · exact parse?_service (by rw [String.toList_ofList]; exact hservice)

/-! ## Texts, names and what they stand for

What was said of reading, of writing and of matching, as one statement about texts. -/

/-- **Names.** A text is read if it has no blank, at most one at sign and no part
without characters. What was read is read again from its written form, and two
texts are read as one name if their services are equal and their hosts are absent
from both, or equal but for the case of ASCII letters. Matching is an order, and a
name with a host is matched by itself and by the bare name of its service, which is
a name too, and by no other. -/
theorem read_written_matched :
    (∀ text, (∃ name, parse text = .ok name) ↔ Admissible text) ∧
    (∀ text name, parse text = .ok name → parse name.text = .ok name) ∧
    (∀ text text' name name', parse text = .ok name → parse text' = .ok name' →
      (name = name' ↔ servicePart text = servicePart text' ∧
        Option.Rel Text.SameUpToCase (hostPart? text) (hostPart? text'))) ∧
    (∀ a : ServiceName, a.accepts a = true) ∧
    (∀ a b c : ServiceName, a.accepts b = true → b.accepts c = true → a.accepts c = true) ∧
    (∀ a b : ServiceName, a.accepts b = true → b.accepts a = true → a = b) ∧
    ∀ text name, parse text = .ok name → name.host ≠ none →
      parse name.service = .ok ⟨name.service, none⟩ ∧
        ∀ other : ServiceName,
          other.accepts name = true ↔ other = name ∨ other = ⟨name.service, none⟩ := by
  refine ⟨fun text => ?_, fun text name h => ?_, fun text text' name name' h h' => ?_,
    accepts_self, fun a b c => accepts_trans, fun a b => accepts_antisymm,
    fun text name h hhost => ⟨parse_service h, accepts_iff_of_host hhost⟩⟩
  · constructor
    · rintro ⟨name, h⟩
      exact (parse_eq_ok_iff_parts.mp h).1
    · intro h
      exact ⟨ofParts text, parse_eq_ok_iff_parts.mpr ⟨h, rfl⟩⟩
  · rw [parse_eq_ok_iff] at h ⊢
    exact parse?_text h
  · rw [(parse_eq_ok_iff_parts.mp h).2, (parse_eq_ok_iff_parts.mp h').2]
    exact ofParts_eq_iff text text'

/-- Hosts that differ in the case of ASCII letters are one host, and a letter
outside of ASCII is not lowered: it keeps two hosts apart. -/
theorem read_written_matched_of_umlaut :
    let name : ServiceName := ⟨"Sign", some "hÖst"⟩
    parse "Sign@HÖST" = .ok name ∧ parse "Sign@hÖsT" = .ok name ∧
      parse "Sign@höst" = .ok ⟨"Sign", some "höst"⟩ ∧
      Option.Rel Text.SameUpToCase (hostPart? "Sign@HÖST") (hostPart? "Sign@hÖsT") ∧
      ¬Option.Rel Text.SameUpToCase (hostPart? "Sign@HÖST") (hostPart? "Sign@höst") ∧
      parse name.text = .ok name ∧
      (∀ other : ServiceName, other.accepts name = true ↔ other = name ∨ other = ⟨"Sign", none⟩) := by
  intro name
  have hfirst : parse "Sign@HÖST" = .ok name := by decide +kernel
  have hsecond : parse "Sign@hÖsT" = .ok name := by decide +kernel
  have hthird : parse "Sign@höst" = .ok ⟨"Sign", some "höst"⟩ := by decide +kernel
  obtain ⟨-, hagain, hsame, -, -, -, hmatched⟩ := read_written_matched
  have happart : name ≠ ⟨"Sign", some "höst"⟩ := by decide
  exact ⟨hfirst, hsecond, hthird, ((hsame _ _ _ _ hfirst hsecond).mp rfl).2,
    fun hhosts => happart ((hsame _ _ _ _ hfirst hthird).mpr ⟨by decide +kernel, hhosts⟩),
    hagain _ _ hfirst, (hmatched _ _ hfirst nofun).2⟩

end ServiceName

end GssContext
