/-!
# Causeway.Text.Similar

How alike two words are: the share of characters they have in common at about the same place, less those
that stand in another order. A misspelt word is close to the one that was meant.

Scores are double-precision numbers, rounded at every step; a score of seven tenths is rounded up and so
exceeds the bound.
-/

namespace Causeway
namespace Similar

/-- How far apart two equal characters may stand to count as common. -/
def window (a b : List Char) : Nat := max a.length b.length / 2 - 1

/-- The first place of `b` within `w` of `i` that holds `c` and is not taken. -/
def partner? (w : Nat) (b : List Char) (taken : List Nat) (i : Nat) (c : Char) : Option Nat :=
  (List.range (min b.length (i + w + 1))).find? fun j => i - w ≤ j ∧ j ∉ taken ∧ b[j]? = some c

/-- The common characters of `a` from place `i` on, each with its place in `b`. -/
def partners (w : Nat) (b : List Char) : List Char → Nat → List Nat → List (Char × Nat)
  | [], _, _ => []
  | c :: cs, i, taken =>
    match partner? w b taken i c with
    | some j => (c, j) :: partners w b cs (i + 1) (j :: taken)
    | none => partners w b cs (i + 1) taken

/-- The likeness of two words of these lengths with `common` characters in common, of which `swaps` pairs
have changed places: one for equal words, zero for words with nothing in common. -/
def likeness (length length' common swaps : Nat) : Float :=
  if common = 0 then 0
  else
    (common.toFloat / length.toFloat + common.toFloat / length'.toFloat
      + (common - swaps).toFloat / common.toFloat) / 3

/-- The likeness of two words. -/
def score (a b : List Char) : Float :=
  let common := partners (window a b) b a 0 []
  let places := common.map Prod.snd
  let inA := common.map Prod.fst
  let inB := (List.range b.length).filterMap fun j => if j ∈ places then b[j]? else none
  let moved := (inA.zip inB).countP fun (c, d) => c ≠ d
  likeness a.length b.length common.length (moved / 2)

/-- Words alike by more than this are taken for a misspelling. -/
def bound : Float := 0.7

/-- The word to suggest for `word`: the most alike of those that are close, and of equals the last. -/
def suggestion? (word : String) (choices : List String) : Option String :=
  let close := (choices.map fun c => (score word.toList c.toList, c)).filter fun p => bound < p.1
  let best := close.foldl (fun best p =>
    match best with
    | none => some p
    | some q => if p.1 < q.1 then some q else some p) none
  best.map Prod.snd

end Similar
end Causeway
