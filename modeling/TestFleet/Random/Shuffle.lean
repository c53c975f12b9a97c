import TestFleet.Random.Stream
/-!
# Shuffling

A list is shuffled from its end: the last place is swapped with a random place up to it, then the
place before it, and so on. A place below `n` is drawn without bias: a random word times `n` gives
it in the upper 32 bits, and is drawn again while the lower 32 bits lie past the last whole zone.
A shuffled list is a permutation of the list (`shuffleWith_perm`).
-/
namespace TestFleet.Random

/-- The greatest lower half that is accepted for `n` places. -/
def zone (n : Nat) : Nat := n * Nat.pow 2 (31 - Nat.log2 n) - 1

/-- A place below `n`, drawn from a stream; so many draws at most. -/
def drawBelow (n : Nat) : Nat → Stream → Nat × Stream
  | 0, s => (0, s)
  | tries + 1, s =>
    let (w, s) := s.draw
    let product := w.toNat * n
    if product % Nat.pow 2 32 ≤ zone n then (product / Nat.pow 2 32, s) else drawBelow n tries s

/-- How often a place is drawn at most; each draw is accepted with more than even chance. -/
def drawLimit : Nat := 1000

/-- Swaps each place from `i` down to 1 with a drawn place up to it. -/
def shuffleFrom {α : Type} : Nat → Array α → Stream → Array α
  | 0, xs, _ => xs
  | i + 1, xs, s =>
    let drawn := drawBelow (i + 2) drawLimit s
    shuffleFrom i (xs.swapIfInBounds (i + 1) drawn.1) drawn.2

/-- The list in a random order. -/
def shuffleWith {α : Type} (s : Stream) (xs : List α) : List α :=
  (shuffleFrom (xs.length - 1) xs.toArray s).toList

/-- The list in the order that a seed gives. -/
def shuffle {α : Type} (seed : UInt64) (xs : List α) : List α :=
  shuffleWith (.ofSeed seed) xs

theorem swapIfInBounds_perm {α : Type} (xs : Array α) (i j : Nat) :
    (xs.swapIfInBounds i j).Perm xs := by
  unfold Array.swapIfInBounds
  split
  · split
    · exact Array.swap_perm _ _
    · exact Array.Perm.refl xs
  · exact Array.Perm.refl xs

theorem shuffleFrom_perm {α : Type} (i : Nat) (xs : Array α) (s : Stream) :
    (shuffleFrom i xs s).Perm xs := by
  induction i generalizing xs s with
  | zero => exact Array.Perm.refl xs
  | succ i ih => exact (ih _ _).trans (swapIfInBounds_perm xs _ _)

theorem shuffleWith_perm {α : Type} (s : Stream) (xs : List α) : (shuffleWith s xs).Perm xs := by
  have h := shuffleFrom_perm (xs.length - 1) xs.toArray s
  simpa [shuffleWith] using Array.perm_iff_toList_perm.mp h

end TestFleet.Random
