/-
How alike two words are.

Two characters match if they are the same and stand at about the same place.
Each character of the first word is given, from left to right, the first one of
the second word that it matches and that is still free. Two words are the more
alike the larger the share of matched characters is in each of them, and the
fewer of the matched ones come in another order.
-/

set_option autoImplicit false

namespace GssContext.Text.Likeness

/-- How far apart two matching characters may stand. -/
def reach (a b : List Char) : Nat := max a.length b.length / 2 - 1

/-- Mark the first character that is `c`, free, and at a place from `low` on and
before `high`. The list begins at place `j`. -/
def mark? (c : Char) (low high : Nat) : (j : Nat) → List (Char × Bool) →
    Option (List (Char × Bool))
  | _, [] => none
  | j, (d, marked) :: rest =>
    if low ≤ j ∧ j < high ∧ d = c ∧ !marked then some ((d, true) :: rest)
    else (mark? c low high (j + 1) rest).map ((d, marked) :: ·)

/-- The matched characters of the first word, from place `i` on, and the second
word with its marks. -/
def pair (reach : Nat) : (i : Nat) → List Char → List (Char × Bool) →
    List Char × List (Char × Bool)
  | _, [], second => ([], second)
  | i, c :: rest, second =>
    match mark? c (i - reach) (i + reach + 1) 0 second with
    | none => pair reach (i + 1) rest second
    | some second =>
      let (matched, second) := pair reach (i + 1) rest second
      (c :: matched, second)

/-- The matched characters of two words, in the order of each. -/
def matched (a b : List Char) : List Char × List Char :=
  let (first, second) := pair (reach a b) 0 a (b.map fun c => (c, false))
  (first, (second.filter Prod.snd).map Prod.fst)

def share (part whole : Nat) : Float := part.toFloat / whole.toFloat

/-- From zero to one, how alike two words are. -/
def degree (a b : List Char) : Float :=
  let (first, second) := matched a b
  let count := first.length
  let displaced := (first.zip second).countP (fun p => p.1 != p.2) / 2
  if count = 0 then 0
  else (share count a.length + share count b.length + share (count - displaced) count) / 3

end Likeness

/-- Are two words so much alike that one may have been meant by the other? -/
def areAlike (a b : String) : Bool := 0.7 < Likeness.degree a.toList b.toList

end GssContext.Text
