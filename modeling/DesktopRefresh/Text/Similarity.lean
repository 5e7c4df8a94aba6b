/-!
# Similarity of two words

The Jaro similarity counts the characters that two words have in common, not too far from each
other, and the pairs of them that come in another order. It is 1 for equal words and 0 for words
without a common character.
-/

namespace DesktopRefresh.Similarity

/-- Takes the first unused occurrence of `c` at a position from `lo` up to `hi`, if there is one. -/
def claim (c : Char) (lo hi : Nat) (word : List (Char × Bool)) : Option (List (Char × Bool)) :=
  let rec go (i : Nat) : List (Char × Bool) → Option (List (Char × Bool))
    | [] => none
    | (d, used) :: rest =>
      if i < hi then
        if lo ≤ i && d = c && !used then some ((d, true) :: rest)
        else (go (i + 1) rest).map ((d, used) :: ·)
      else none
  go 0 word

/-- The characters of `a` that have a partner in `b`, in order, and `b` with the partners marked. -/
def pair (window : Nat) (a : List Char) (b : List Char) : List Char × List (Char × Bool) :=
  let step : List Char × List (Char × Bool) → Char × Nat → List Char × List (Char × Bool)
    | (found, word), (c, i) =>
      match claim c (i - window) (i + window + 1) word with
      | some word => (found ++ [c], word)
      | none => (found, word)
  a.zipIdx.foldl step ([], b.map (·, false))

def jaro (a b : List Char) : Float :=
  if a.isEmpty && b.isEmpty then 1.0
  else
    let (found, word) := pair (max a.length b.length / 2 - 1) a b
    let partners := (word.filter (·.2)).map (·.1)
    let moved := ((found.zip partners).filter fun p => p.1 != p.2).length / 2
    let m := Float.ofNat found.length
    if found.isEmpty then 0.0
    else (m / Float.ofNat a.length + m / Float.ofNat b.length + Float.ofNat (found.length - moved) / m) / 3.0

/-- The candidate most similar to a word, if any comes near it; of two equally similar ones the later. -/
def closest? (word : String) (candidates : List String) : Option String :=
  let step : Option (Float × String) → String → Option (Float × String)
    | best, c =>
      let s := jaro word.toList c.toList
      if s > 0.7 then
        match best with
        | some (t, _) => if s < t then best else some (s, c)
        | none => some (s, c)
      else best
  (candidates.foldl step none).map (·.2)

end DesktopRefresh.Similarity
