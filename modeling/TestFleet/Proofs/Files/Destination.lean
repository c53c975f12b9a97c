import TestFleet.Files.Tree
/-!
# Where paths lead

Joined paths have the parts of both (`parts_join`). Where no link stands in the way, a path leads
where its parts say, one after the other (`Tree.eq_destination_of_resolve`), so names joined to a
base lead to just these names below the base (`destination_foldl_join`).
-/
namespace TestFleet

namespace Files

variable {base rest name : String} {names : List String}

/-! ## Parts -/

/-- A name of one file or directory: a path of one part that does not lead up. -/
structure IsName (name : String) : Prop where
  nonempty : name ≠ ""
  solid : '/' ∉ name.toList
  ne_dot : name ≠ "."
  ne_up : name ≠ ".."

instance (name : String) : Decidable (IsName name) :=
  decidable_of_iff (name ≠ "" ∧ '/' ∉ name.toList ∧ name ≠ "." ∧ name ≠ "..")
    ⟨fun ⟨a, b, c, d⟩ => ⟨a, b, c, d⟩, fun ⟨a, b, c, d⟩ => ⟨a, b, c, d⟩⟩

theorem IsName.not_isAbsolute (h : IsName name) : isAbsolute name = false := by
  have solid := h.solid
  unfold isAbsolute
  cases cs : name.toList with
  | nil => rfl
  | cons c others =>
    rw [cs] at solid
    have apart : c ≠ '/' := fun same => solid (same ▸ List.mem_cons_self)
    simpa using apart

theorem IsName.parts_eq (h : IsName name) : parts name = [name] := by
  have solid : ∀ c ∈ name.toList, (c == '/') = false := fun c hc =>
    beq_eq_false_iff_ne.2 fun same => h.solid (same ▸ hc)
  unfold parts Text.splitOnChar
  rw [Text.pieces_of_forall_not solid]
  simp [h.nonempty, h.ne_dot]

theorem parts_slash (base rest : String) :
    parts (base ++ "/" ++ rest) = parts base ++ parts rest := by
  have split : (base ++ "/" ++ rest).toList = base.toList ++ '/' :: rest.toList := by simp
  unfold parts Text.splitOnChar
  rw [split, Text.pieces_append_cons rfl, List.map_append, List.filter_append]

theorem parts_join (relative : isAbsolute rest = false) :
    parts (join base rest) = parts base ++ parts rest := by
  unfold join
  rw [relative, if_neg Bool.false_ne_true]
  split
  next ends =>
    rcases Bool.or_eq_true_iff.1 ends with empty | slash
    · obtain rfl := String.isEmpty_iff.1 empty
      rw [String.empty_append]
      rfl
    · obtain ⟨front, eq⟩ := List.getLast?_eq_some_iff.1 (beq_iff_eq.1 slash)
      obtain rfl : base = String.ofList front ++ "/" ++ "" := by
        apply String.toList_inj.1
        simp [eq]
      have own : parts "" = [] := rfl
      rw [parts_slash, own, List.append_nil, String.append_empty, parts_slash]
  next => exact parts_slash base rest

theorem isAbsolute_join (relative : isAbsolute rest = false) :
    isAbsolute (join base rest) = isAbsolute base := by
  unfold join
  rw [relative, if_neg Bool.false_ne_true]
  cases cs : base.toList with
  | nil =>
    obtain rfl : base = "" := String.toList_inj.1 cs
    exact relative
  | cons c others =>
    have starts (more : String) : isAbsolute (base ++ more) = isAbsolute base := by
      simp [isAbsolute, cs]
    split
    · exact starts rest
    · rw [String.append_assoc]
      exact starts _

/-! ## Places -/

/-- Where names lead from a place, each into the directory of its name or up. -/
def travel (start : Place) (names : List String) : Place :=
  names.foldl (fun place name => if name = ".." then place.dropLast else place ++ [name]) start

/-- The places at which names are looked up on the way along them. -/
def stops (start : Place) : List String → List Place
  | [] => []
  | name :: rest => start :: stops (start ++ [name]) rest

/-- Where a path leads from the current directory. -/
def destination (current : Place) (path : String) : Place :=
  travel (if isAbsolute path then [] else current) (parts path)

theorem travel_up (start : Place) (names : List String) :
    travel start (".." :: names) = travel start.dropLast names := by
  simp [travel]

theorem travel_down (start : Place) (names : List String) (notUp : name ≠ "..") :
    travel start (name :: names) = travel (start ++ [name]) names := by
  simp [travel, notUp]

/-- Names joined to a base lead to these names below it. -/
theorem destination_foldl_join (current : Place) (plain : ∀ name ∈ names, IsName name) :
    destination current (names.foldl join base) = destination current base ++ names := by
  induction names generalizing base with
  | nil => exact (List.append_nil _).symm
  | cons name others ih =>
    obtain ⟨first, plain⟩ := List.forall_mem_cons.1 plain
    have relative := first.not_isAbsolute
    have one : destination current (join base name) = destination current base ++ [name] := by
      unfold destination
      rw [isAbsolute_join relative, parts_join relative, first.parts_eq, travel, List.foldl_append]
      exact travel_down _ [] first.ne_up
    rw [List.foldl_cons, ih plain, one, List.append_assoc]
    rfl

namespace Tree

variable {t : Tree}

/-- No link stands anywhere. -/
def Linkless (t : Tree) : Prop := ∀ place target, t.node? place ≠ some (.link target)

theorem linkless_of_nodes (plain : ∀ entry ∈ t.nodes, ∀ target, entry.2 ≠ .link target) :
    t.Linkless := by
  intro place target found
  unfold node? at found
  split at found
  · cases found
  · obtain ⟨before, after, eq, -⟩ := List.lookup_eq_some_iff.1 found
    exact plain _ (eq ▸ List.mem_append_right _ List.mem_cons_self) target rfl

theorem eq_travel_of_walk {follow : Bool} {links : Nat} {start place : Place}
    (linkless : t.Linkless) (walked : t.walk follow links start names = .ok place) :
    place = travel start names := by
  fun_induction walk t follow links start names
  case case1 =>
    cases walked
    rfl
  case case4 start rest _ _ ih => exact (ih walked).trans (travel_up start rest).symm
  case case10 start _ _ _ notUp _ _ =>
    exact (Except.ok.inj walked).symm.trans (travel_down start [] notUp).symm
  case case11 start _ _ _ notUp next other more _ ih =>
    exact (ih walked).trans (travel_down start (other :: more) notUp).symm
  -- What is left are links, of which there is none, and errors.
  all_goals first
    | exact absurd ‹t.node? _ = some (.link _)› (linkless _ _)
    | cases walked

/-- Where no link stands, a path that leads anywhere leads where its parts say. -/
theorem eq_destination_of_resolve {path : String} {place : Place} (linkless : t.Linkless)
    (resolved : t.resolve path = .ok place) : place = destination t.current path := by
  unfold resolve resolveWith at resolved
  split at resolved
  · cases resolved
  split at resolved
  · cases resolved
  split at resolved
  · cases resolved
  exact eq_travel_of_walk linkless resolved

/-- A directory that may be searched. -/
def IsOpen (t : Tree) (place : Place) : Prop :=
  t.node? place = some .directory ∧ t.permits .search place = true

instance (t : Tree) (place : Place) : Decidable (t.IsOpen place) :=
  inferInstanceAs (Decidable (_ ∧ _))

/-- Along names through open directories a walk leads where the names say. -/
theorem walk_of_isOpen {follow : Bool} {links : Nat} {start : Place} (linkless : t.Linkless)
    (fits : ∀ name ∈ names, name ≠ ".." ∧ name.utf8ByteSize ≤ nameLimit)
    (opens : ∀ place ∈ stops start names, t.IsOpen place) :
    t.walk follow links start names = .ok (start ++ names) := by
  induction names generalizing start with
  | nil => rw [walk, List.append_nil]
  | cons name others ih =>
    obtain ⟨⟨notUp, fit⟩, fits⟩ := List.forall_mem_cons.1 fits
    obtain ⟨⟨-, search⟩, opens⟩ := List.forall_mem_cons.1 opens
    rw [walk, if_neg (Nat.not_lt.2 fit), search, if_neg (by decide), if_neg notUp]
    cases others with
    | nil =>
      dsimp only
      split
      next target found _ => exact absurd found (linkless _ _)
      all_goals first | rfl | cases ‹_ = _ :: _›
    | cons other more =>
      obtain ⟨directory, -⟩ := opens _ List.mem_cons_self
      simp only [directory]
      rw [ih fits opens, List.append_assoc]
      rfl

/-- A path through open directories leads where its parts say. -/
theorem resolve_of_isOpen {path : String} (linkless : t.Linkless)
    (readable : path.isEmpty = false ∧ path.toList.any (·.toNat == 0) = false ∧
      path.utf8ByteSize ≤ pathLimit)
    (fits : ∀ name ∈ parts path, name ≠ ".." ∧ name.utf8ByteSize ≤ nameLimit)
    (opens : ∀ place ∈ stops (if isAbsolute path then [] else t.current) (parts path),
      t.IsOpen place) :
    t.resolve path = .ok ((if isAbsolute path then [] else t.current) ++ parts path) := by
  obtain ⟨nonempty, noNull, short⟩ := readable
  rw [resolve, resolveWith, nonempty, noNull, if_neg (by decide), if_neg (by decide),
    if_neg (Nat.not_lt.2 short)]
  exact walk_of_isOpen linkless fits opens

end Tree

end Files

end TestFleet
