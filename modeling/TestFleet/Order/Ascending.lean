/-!
# Ascending lists

Sets and maps whose order answers show are lists in ascending order without repetition. `insert`
puts an element at its place; `put` puts a value under a key, in the place of an earlier one. Their
laws say what belongs to the result and in which order (`mem_ofList`, `pairwise_ofList`).
-/
namespace TestFleet.Ascending

/-- Text by code points, as sets and maps of names are ordered. -/
def textBefore (a b : String) : Bool := decide (a < b)

/-- Text that neither comes before the other is the same. -/
theorem eq_of_not_textBefore (a b : String) (h : textBefore a b = false)
    (h' : textBefore b a = false) : a = b := by
  simp only [textBefore, decide_eq_false_iff_not] at h h'
  exact String.le_antisymm (String.not_lt.1 h') (String.not_lt.1 h)

variable {α : Type}

/-- An element put at its place, once. -/
def insert (before : α → α → Bool) (a : α) : List α → List α
  | [] => [a]
  | b :: rest =>
    if before a b then a :: b :: rest
    else if before b a then b :: insert before a rest
    else b :: rest

/-- The set of a list's elements. -/
def ofList (before : α → α → Bool) (xs : List α) : List α :=
  xs.foldl (fun set a => insert before a set) []

/-- A value put under a key. -/
def put (key : String) (value : α) : List (String × α) → List (String × α)
  | [] => [(key, value)]
  | (k, v) :: rest =>
    if key < k then (key, value) :: (k, v) :: rest
    else if k < key then (k, v) :: put key value rest
    else (key, value) :: rest

/-- The map of a list of entries; the last value of a key wins. -/
def mapOfList (entries : List (String × α)) : List (String × α) :=
  entries.foldl (fun map (k, v) => put k v map) []

/-- What belongs to a set after an insertion, when elements that neither comes before the other
are equal. -/
theorem mem_insert {before : α → α → Bool}
    (total : ∀ a b, before a b = false → before b a = false → a = b) (a x : α) (set : List α) :
    x ∈ insert before a set ↔ x = a ∨ x ∈ set := by
  induction set with
  | nil => simp [insert]
  | cons b rest ih =>
    unfold insert
    split
    · simp
    · split
      · simp only [List.mem_cons, ih]
        grind
      · rename_i h₁ h₂
        have hab : a = b := total a b (by simpa using h₁) (by simpa using h₂)
        subst hab
        simp

/-- What belongs to the set of a list's elements. -/
theorem mem_ofList {before : α → α → Bool}
    (total : ∀ a b, before a b = false → before b a = false → a = b) {x : α} {xs : List α} :
    x ∈ ofList before xs ↔ x ∈ xs := by
  suffices all : ∀ set, x ∈ xs.foldl (fun set a => insert before a set) set ↔ x ∈ set ∨ x ∈ xs by
    simpa [ofList] using all []
  induction xs with
  | nil => simp
  | cons a rest ih =>
    intro set
    rw [List.foldl_cons, ih, mem_insert total, List.mem_cons]
    grind

/-- An insertion keeps a set in ascending order. -/
theorem pairwise_insert {before : α → α → Bool}
    (total : ∀ a b, before a b = false → before b a = false → a = b)
    (trans : ∀ a b c, before a b = true → before b c = true → before a c = true) (a : α)
    {set : List α} (ascends : set.Pairwise fun x y => before x y = true) :
    (insert before a set).Pairwise fun x y => before x y = true := by
  induction set with
  | nil => simp [insert]
  | cons b rest ih =>
    obtain ⟨first, others⟩ := List.pairwise_cons.1 ascends
    unfold insert
    split
    · rename_i lower
      refine List.pairwise_cons.2 ⟨fun x hx => ?_, ascends⟩
      rcases List.mem_cons.1 hx with rfl | later
      · exact lower
      · exact trans a b x lower (first x later)
    · split
      · rename_i higher
        refine List.pairwise_cons.2 ⟨fun x hx => ?_, ih others⟩
        rcases (mem_insert total a x rest).1 hx with rfl | later
        · exact higher
        · exact first x later
      · exact ascends

/-- The set of a list's elements is in ascending order. -/
theorem pairwise_ofList {before : α → α → Bool}
    (total : ∀ a b, before a b = false → before b a = false → a = b)
    (trans : ∀ a b c, before a b = true → before b c = true → before a c = true) (xs : List α) :
    (ofList before xs).Pairwise fun x y => before x y = true := by
  suffices all : ∀ set : List α, set.Pairwise (fun x y => before x y = true) →
      (xs.foldl (fun set a => insert before a set) set).Pairwise fun x y => before x y = true from
    all [] .nil
  induction xs with
  | nil => exact fun _ ascends => ascends
  | cons a rest ih => exact fun set ascends => ih _ (pairwise_insert total trans a ascends)

/-- A set of texts has each of them once. -/
theorem nodup_ofText (xs : List String) : (ofList textBefore xs).Nodup := by
  have ascends := pairwise_ofList eq_of_not_textBefore
    (fun a b c h h' => decide_eq_true (String.lt_trans (of_decide_eq_true h) (of_decide_eq_true h')))
    xs
  refine ascends.imp fun {a b} lower => ?_
  rintro rfl
  exact String.lt_irrefl a (of_decide_eq_true lower)

end TestFleet.Ascending
