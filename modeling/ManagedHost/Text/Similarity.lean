/-!
How alike two words are. Characters match when they are equal and not far from each other; the
measure of Jaro is the mean of the shares of matching characters in both words and of the share of
matches that stand in the same order. It is computed as a fraction.
-/

namespace ManagedHost.Text

structure Share where
  part : Nat
  whole : Nat

def Share.above (a b : Share) : Bool := b.part * a.whole < a.part * b.whole

/-- Pairs each character of the first word, from left to right, with the first equal character of
the second word that is free and at most `range` places away. The result lists the characters of
the first word that found a partner, and the places of the partners. -/
def matchChars (range : Nat) (other : List Char) :
    (place : Nat) → (taken : List Nat) → List Char → List Char × List Nat
  | _, taken, [] => ([], taken)
  | place, taken, c :: rest =>
    let partner := (List.range other.length).find? fun i =>
      place ≤ i + range && i ≤ place + range && other[i]? == some c && !taken.contains i
    match partner with
    | some i =>
      let (found, taken) := matchChars range other (place + 1) (i :: taken) rest
      (c :: found, taken)
    | none => matchChars range other (place + 1) taken rest

/-- The measure of Jaro for two words. -/
def similarity (a b : String) : Share :=
  let range := max a.length b.length / 2 - 1
  let (found, places) := matchChars range b.toList 0 [] a.toList
  let partners := (b.toList.zipIdx.filter fun (_, i) => places.contains i).map (·.1)
  let matched := found.length
  let swapped := ((found.zip partners).filter fun (x, y) => x ≠ y).length / 2
  if matched = 0 then ⟨if a.isEmpty && b.isEmpty then 1 else 0, 1⟩
  else
    ⟨matched * b.length * matched + matched * a.length * matched +
        (matched - swapped) * a.length * b.length,
      3 * a.length * b.length * matched⟩

/-- The candidate most like a word, if any is like it by more than seven tenths; of equally like
ones the last. -/
def mostSimilar (word : String) (candidates : List String) : Option String :=
  (candidates.foldl
    (fun (best : Share × Option String) candidate =>
      let share := similarity word candidate
      if share.above ⟨7, 10⟩ && !best.1.above share then (share, some candidate) else best)
    (⟨7, 10⟩, none)).2

end ManagedHost.Text
