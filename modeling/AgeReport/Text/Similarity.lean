/-!
# Similarity of words

How alike two words are, from 0 for nothing in common to 1 for equal: the Jaro measure. Characters
match when they are equal and stand at nearly the same place; the measure averages the shares of
matched characters in both words and the share of them that are in the same order. It serves to
suggest a known word for an unknown one.

* `bestMatch`: the most similar of several words, if one is similar enough.
-/

namespace AgeReport.Text.Similarity

/-- Marks the first place, among those from `least` on and below `limit`, that holds `c` and is not
yet marked; `none` if there is none. Places are counted from `place`. -/
def mark (c : Char) (least limit : Nat) : Nat → List (Char × Bool) → Option (List (Char × Bool))
  | _, [] => none
  | place, (d, used) :: rest =>
    if limit ≤ place then none
    else if least ≤ place ∧ c = d ∧ used = false then some ((d, true) :: rest)
    else (mark c least limit (place + 1) rest).map ((d, used) :: ·)

/-- Matches the characters of a word, one after the other, with places of another; answers the
characters that found a match and the marked places. -/
def matchUp (window : Nat) : Nat → List Char → List (Char × Bool) → List Char × List (Char × Bool)
  | _, [], places => ([], places)
  | i, c :: cs, places =>
    match mark c (i - window) (i + window + 1) 0 places with
    | none => matchUp window (i + 1) cs places
    | some marked =>
      let (found, places') := matchUp window (i + 1) cs marked
      (c :: found, places')

/-- The Jaro measure. -/
def jaro (a b : List Char) : Float :=
  if a = [] ∧ b = [] then 1
  else
    let window := max a.length b.length / 2 - 1
    let (found, places) := matchUp window 0 a (b.map fun c => (c, false))
    let matched := (places.filter fun p => p.2).map fun p => p.1
    let m := found.length
    let moved := ((found.zip matched).filter fun p => p.1 != p.2).length / 2
    if m = 0 then 0
    else
      (m.toFloat / a.length.toFloat + m.toFloat / b.length.toFloat +
        (m - moved).toFloat / m.toFloat) / 3

/-- The similarity from which on a word is worth suggesting. -/
def threshold : Float := 0.7

/-- The value whose name is most similar to the word and similar enough; of several equally
similar ones the last. -/
def bestMatch {α : Type} (name : α → String) (word : String) (candidates : List α) : Option α :=
  let rated := (candidates.map fun a => (jaro word.toList (name a).toList, a)).filter fun p =>
    threshold < p.1
  (rated.foldl (fun (best : Option (Float × α)) p =>
    match best with
    | none => some p
    | some q => if q.1 ≤ p.1 then some p else some q) none).map fun p => p.2

end AgeReport.Text.Similarity
