import TestFleet.Proofs.Xml.Reading
/-!
# The tags of a document

A scanner goes through the characters of a document and writes down its tags: the names of elements,
and in a start tag the names of the attributes. It neither looks at texts and values nor minds which
end tag belongs to which start tag. Where a document is read, what the scanner writes down are the
tags of the elements that were read (`tags?_of_read?`), and these are properly nested
(`Node.nested_tags`).
-/
namespace TestFleet.Xml

/-- A tag, without the values of its attributes. A single tag is a start tag and an end tag. -/
inductive Tag where
  | opening (name : String) (keys : List String)
  | closing (name : String)
  deriving DecidableEq, Repr

/-- Whether a tag begins an element of a name. -/
def Tag.opens (name : String) : Tag → Bool
  | .opening own _ => own == name
  | .closing _ => false

/-- Every start tag has its end tag, and what is between them is nested too. -/
inductive Nested : List Tag → Prop where
  | nil : Nested []
  | element {name : String} {keys : List String} {inner rest : List Tag} :
    Nested inner → Nested rest →
      Nested (.opening name keys :: (inner ++ .closing name :: rest))

theorem Nested.append {ts us : List Tag} (first : Nested ts) (second : Nested us) :
    Nested (ts ++ us) := by
  induction first with
  | nil => exact second
  | element inner _ _ ih =>
    rw [List.cons_append, List.append_assoc, List.cons_append]
    exact .element inner ih

/-- The names of attributes. -/
def keysOf (attributes : Attributes) : List String := attributes.map Prod.fst

/-! ## Tags of what is read -/

mutual

/-- The tags of a node, in order. -/
def Node.tags : Node → List Tag
  | .text _ => []
  | .element name attributes content =>
    .opening name (keysOf attributes) :: (tagsOfAll content ++ [.closing name])

/-- The tags of nodes, in order. -/
def tagsOfAll : List Node → List Tag
  | [] => []
  | n :: rest => n.tags ++ tagsOfAll rest

end

theorem tagsOfAll_append (xs ys : List Node) :
    tagsOfAll (xs ++ ys) = tagsOfAll xs ++ tagsOfAll ys := by
  induction xs with
  | nil => rfl
  | cons n rest ih => rw [List.cons_append, tagsOfAll, tagsOfAll, ih, List.append_assoc]

/-- What is blank has no tags. -/
theorem tagsOfAll_filter (ns : List Node) :
    tagsOfAll (ns.filter (!·.isBlank)) = tagsOfAll ns := by
  induction ns with
  | nil => rfl
  | cons n rest ih =>
    rw [List.filter_cons, tagsOfAll]
    split
    · rw [tagsOfAll, ih]
    next blank =>
      cases n with
      | text content => exact ih
      | element name attributes content => exact absurd rfl blank

mutual

theorem Node.nested_tags : ∀ n : Node, Nested n.tags
  | .text _ => .nil
  | .element _ _ content => .element (nested_tagsOfAll content) .nil

theorem nested_tagsOfAll : ∀ ns : List Node, Nested (tagsOfAll ns)
  | [] => .nil
  | n :: rest => n.nested_tags.append (nested_tagsOfAll rest)

end

/-- How many elements of a name there are in an element, however deep. -/
def Node.number (name : String) (node : Node) : Nat := (tagsOfAll node.content).countP (Tag.opens name)

/-! ## Tags of what is written -/

section Written

variable {level : Nat} {name own : String} {attributes : Attributes} {es : List Element}

theorem tagsOfAll_textNodes (text : String) : tagsOfAll (Reader.textNodes text) = [] := by
  unfold Reader.textNodes
  split <;> rfl

theorem tagsOfAll_nodesOfAll (level : Nat) (es : List Element) :
    tagsOfAll (nodesOfAll level es) = es.flatMap fun e => (e.node level).tags := by
  induction es with
  | nil => rfl
  | cons e rest ih =>
    rw [nodesOfAll, tagsOfAll, tagsOfAll, ih]
    rfl

theorem tagsOfAll_branch :
    tagsOfAll ((Element.branch name attributes es).node level).content =
      es.flatMap fun e => (e.node (level + 1)).tags := by
  rw [Element.node, Node.content, tagsOfAll_append, tagsOfAll_nodesOfAll]
  exact List.append_nil _

theorem tags_branch :
    ((Element.branch name attributes es).node level).tags =
      .opening name (keysOf attributes) ::
        ((es.flatMap fun e => (e.node (level + 1)).tags) ++ [.closing name]) := by
  have inner := @tagsOfAll_branch level name attributes es
  rw [← inner]
  rfl

theorem tags_leaf {content : String} :
    ((Element.leaf name attributes content).node level).tags =
      [.opening name (keysOf attributes), .closing name] := by
  rw [Element.node, Node.tags, tagsOfAll_textNodes]
  rfl

/-- If just those of some elements that pass a test hold an element of the name, there are as many
of these. -/
theorem number_branch_map {α : Type} {f : α → Element} {test : α → Bool}
    (holds : ∀ a, ((f a).node (level + 1)).tags.countP (Tag.opens name) =
      if test a then 1 else 0) (as : List α) :
    ((Element.branch own attributes (as.map f)).node level).number name = as.countP test := by
  rw [Node.number, tagsOfAll_branch, List.flatMap_map]
  induction as with
  | nil => rfl
  | cons a rest ih =>
    rw [List.flatMap_cons, List.countP_append, ih, holds, List.countP_cons, Nat.add_comm]

end Written

/-! ## The scanner -/

/-- Where a scanner stands, with the letters of the name it reads there. -/
inductive Spot where
  /-- Between tags. -/
  | text
  /-- After the sign that opens a tag. -/
  | opened
  | closing (read : List Char)
  | name (read : List Char)
  /-- After the name in a tag, or after an attribute. -/
  | inside (name : String) (keys : List String)
  | key (name : String) (keys : List String) (read : List Char)
  /-- Before the value of an attribute. -/
  | equals (name : String) (keys : List String)
  | value (name : String) (keys : List String)
  /-- Before the end of a single tag. -/
  | ending (name : String) (keys : List String)

/-- A scanner: where it stands, and the tags that have ended. -/
structure Scanner where
  spot : Spot
  tags : List Tag

namespace Scanner

/-- Goes over a character after the name in a tag or after an attribute. -/
def stepInside (tags : List Tag) (name : String) (keys : List String) (c : Char) :
    Option Scanner :=
  if c = ' ' then some ⟨.key name keys [], tags⟩
  else if c = '/' then some ⟨.ending name keys, tags⟩
  else if c = '>' then some ⟨.text, tags ++ [.opening name keys]⟩
  else none

/-- Goes over a character. -/
def step (s : Scanner) (c : Char) : Option Scanner :=
  let ⟨spot, tags⟩ := s
  match spot with
  | .text => some ⟨if c = '<' then .opened else .text, tags⟩
  | .opened =>
    if c = '/' then some ⟨.closing [], tags⟩
    else if isNameChar c then some ⟨.name [c], tags⟩
    else none
  | .closing read =>
    if isNameChar c then some ⟨.closing (read ++ [c]), tags⟩
    else if c = '>' then some ⟨.text, tags ++ [.closing (String.ofList read)]⟩
    else none
  | .name read =>
    if isNameChar c then some ⟨.name (read ++ [c]), tags⟩
    else stepInside tags (String.ofList read) [] c
  | .inside name keys => stepInside tags name keys c
  | .key name keys read =>
    if isNameChar c then some ⟨.key name keys (read ++ [c]), tags⟩
    else if c = '=' then some ⟨.equals name (keys ++ [String.ofList read]), tags⟩
    else none
  | .equals name keys => if c = '"' then some ⟨.value name keys, tags⟩ else none
  | .value name keys =>
    if c = '"' then some ⟨.inside name keys, tags⟩
    else if c = '<' then none
    else some ⟨.value name keys, tags⟩
  | .ending name keys =>
    if c = '>' then some ⟨.text, tags ++ [.opening name keys, .closing name]⟩ else none

/-- Goes over characters. -/
def run (s : Scanner) (cs : List Char) : Option Scanner := cs.foldlM step s

/-- The scanner before a document. -/
def start : Scanner := ⟨.text, []⟩

end Scanner

/-- The tags of a document, in order, if it has no tag that is cut off or misspelt. -/
def tags? (document : String) : Option (List Tag) := do
  let body ← Text.dropLeading? declaration.toList document.toList
  match ← Scanner.start.run body with
  | ⟨.text, tags⟩ => some tags
  | _ => none

/-! ## The scanner beside the reader -/

/-- Where a scanner stands when a reader stands there. -/
def spotOf : Position → Spot
  | .text _ => .text
  | .opened => .opened
  | .closing read => .closing read
  | .name read => .name read
  | .inside name attributes => .inside name (keysOf attributes)
  | .attribute name attributes read => .key name (keysOf attributes) read
  | .equals name attributes key => .equals name (keysOf attributes ++ [key])
  | .value name attributes key _ => .value name (keysOf attributes ++ [key])
  | .ending name attributes => .ending name (keysOf attributes)

namespace Reader

/-- The tags that a reader has read when these elements are open. -/
def told : List Frame → List Tag
  | [] => []
  | frame :: rest =>
    told rest ++ .opening frame.name (keysOf frame.attributes) :: tagsOfAll frame.content

variable {frames frames' : List Frame} {name : String} {attributes : Attributes}

theorem told_add (nodes : List Node) (inside : frames ≠ []) :
    told (add nodes frames) = told frames ++ tagsOfAll nodes := by
  cases frames with
  | nil => exact absurd rfl inside
  | cons frame rest =>
    rw [add, told, told, tagsOfAll_append, List.append_assoc, List.cons_append]

theorem add_ne_nil (nodes : List Node) (inside : frames ≠ []) : add nodes frames ≠ [] := by
  cases frames with
  | nil => exact absurd rfl inside
  | cons frame rest => exact List.cons_ne_nil _ _

theorem told_close (closed : close name frames = some frames') :
    frames' ≠ [] ∧ told frames' = told frames ++ [.closing name] := by
  unfold close at closed
  split at closed
  next frame around rest =>
    split at closed
    next own =>
      obtain rfl := Option.some.inj closed
      have inside : around :: rest ≠ [] := List.cons_ne_nil _ _
      refine ⟨add_ne_nil _ inside, ?_⟩
      rw [told_add _ inside, ← own]
      simp [told, tagsOfAll, Node.tags]
    · cases closed
  · cases closed

/-- A scanner has kept up with a reader. The outermost element of a reader has no tags. -/
structure Follows (r : Reader) (s : Scanner) : Prop where
  spot : s.spot = spotOf r.position
  tags : told r.frames = .opening "" [] :: s.tags
  inside : r.frames ≠ []

/-- After a character a scanner has kept up with a reader. -/
def KeptUp (s? : Option Scanner) (r : Reader) : Prop := ∃ s, s? = some s ∧ Follows r s

/-- Where reader and scanner look at the same sign, they take the same way on. -/
theorem KeptUp.ite {p : Prop} [Decidable p] {x y : Option Reader} {sx sy : Option Scanner}
    {r : Reader} (done : (if p then x else y) = some r) (holds : p → x = some r → KeptUp sx r)
    (fails : ¬p → y = some r → KeptUp sy r) : KeptUp (if p then sx else sy) r := by
  by_cases sign : p
  · rw [if_pos sign] at done ⊢
    exact holds sign done
  · rw [if_neg sign] at done ⊢
    exact fails sign done

/-- A reader that goes on inside the same elements has read no tag. -/
theorem KeptUp.same {position : Position} {tags : List Tag} {r : Reader}
    (known : told frames = .opening "" [] :: tags) (inside : frames ≠ [])
    (done : some ⟨frames, position⟩ = some r) : KeptUp (some ⟨spotOf position, tags⟩) r := by
  obtain rfl := Option.some.inj done
  exact ⟨_, rfl, rfl, known, inside⟩

theorem KeptUp.none {r : Reader} {s? : Option Scanner} (done : none = some r) : KeptUp s? r :=
  nomatch done

theorem KeptUp.stepInside {r : Reader} {tags : List Tag} {c : Char}
    (known : told frames = .opening "" [] :: tags) (inside : frames ≠ [])
    (done : stepInside frames name attributes c = some r) :
    KeptUp (Scanner.stepInside tags name (keysOf attributes) c) r := by
  unfold Reader.stepInside at done
  unfold Scanner.stepInside
  refine KeptUp.ite done (fun _ => KeptUp.same known inside) fun _ done => ?_
  refine KeptUp.ite done (fun _ => KeptUp.same known inside) fun _ done => ?_
  refine KeptUp.ite done (fun _ done => ?_) fun _ => KeptUp.none
  obtain rfl := Option.some.inj done
  refine ⟨_, rfl, rfl, ?_, List.cons_ne_nil _ _⟩
  rw [told, known]
  rfl

/-- What a reader reads, a scanner goes over. -/
theorem Follows.step {r r' : Reader} {s : Scanner} {c : Char} (h : Follows r s)
    (done : r.step c = some r') : KeptUp (s.step c) r' := by
  obtain ⟨frames, position⟩ := r
  obtain ⟨spot, tags⟩ := s
  obtain ⟨here, known, inside⟩ := h
  dsimp only at here known inside
  subst here
  match position, done with
  | .text read, done =>
    simp only [Reader.step] at done
    refine ⟨⟨if c = '<' then .opened else .text, tags⟩, rfl, ?_⟩
    split at done
    next opens =>
      obtain ⟨text, -, rfl⟩ := Option.map_eq_some_iff.1 done
      refine ⟨by simp [opens, spotOf], ?_, add_ne_nil _ inside⟩
      rw [told_add _ inside, tagsOfAll_textNodes, List.append_nil, known]
    next plain =>
      obtain rfl := Option.some.inj done
      exact ⟨by simp [plain, spotOf], known, inside⟩
  | .opened, done =>
    refine KeptUp.ite done (fun _ => KeptUp.same known inside) fun _ done => ?_
    exact KeptUp.ite done (fun _ => KeptUp.same known inside) fun _ => KeptUp.none
  | .closing read, done =>
    refine KeptUp.ite done (fun _ => KeptUp.same known inside) fun _ done => ?_
    refine KeptUp.ite done (fun _ done => ?_) fun _ => KeptUp.none
    obtain ⟨after, closed, rfl⟩ := Option.map_eq_some_iff.1 done
    obtain ⟨still, all⟩ := told_close closed
    refine ⟨_, rfl, rfl, ?_, still⟩
    rw [all, known]
    rfl
  | .name read, done =>
    refine KeptUp.ite done (fun _ => KeptUp.same known inside) fun _ done => ?_
    exact KeptUp.stepInside known inside done
  | .inside name attributes, done => exact KeptUp.stepInside known inside done
  | .attribute name attributes read, done =>
    refine KeptUp.ite done (fun _ => KeptUp.same known inside) fun _ done => ?_
    exact KeptUp.ite done (fun _ => KeptUp.same known inside) fun _ => KeptUp.none
  | .equals name attributes key, done =>
    exact KeptUp.ite done (fun _ => KeptUp.same known inside) fun _ => KeptUp.none
  | .value name attributes key read, done =>
    refine KeptUp.ite done (fun _ done => ?_) fun _ done => ?_
    · obtain ⟨value, -, rfl⟩ := Option.map_eq_some_iff.1 done
      refine ⟨_, rfl, ?_, known, inside⟩
      simp [spotOf, keysOf]
    · exact KeptUp.ite done (fun _ => KeptUp.none) fun _ => KeptUp.same known inside
  | .ending name attributes, done =>
    refine KeptUp.ite done (fun _ done => ?_) fun _ => KeptUp.none
    obtain rfl := Option.some.inj done
    refine ⟨_, rfl, rfl, ?_, add_ne_nil _ inside⟩
    rw [told_add _ inside, known]
    rfl

theorem Follows.run {r r' : Reader} {s : Scanner} {cs : List Char} (h : Follows r s)
    (done : r.run cs = some r') : ∃ s', s.run cs = some s' ∧ Follows r' s' := by
  induction cs generalizing r s with
  | nil =>
    obtain rfl := Option.some.inj done
    exact ⟨s, rfl, h⟩
  | cons c rest ih =>
    obtain ⟨r₁, first, others⟩ := Option.bind_eq_some_iff.1 done
    obtain ⟨s₁, first', h₁⟩ := h.step first
    obtain ⟨s₂, others', h₂⟩ := ih h₁ others
    refine ⟨s₂, ?_, h₂⟩
    unfold Scanner.run at others' ⊢
    rw [List.foldlM_cons, first']
    exact others'

end Reader

/-- The tags of a document that is read are those of what is read. -/
theorem tags?_of_read? {document : String} {root : Node} (read : read? document = some root) :
    tags? document = some root.tags := by
  unfold read? at read
  obtain ⟨body, begins, read⟩ := Option.bind_eq_some_iff.1 read
  obtain ⟨r, done, read⟩ := Option.bind_eq_some_iff.1 read
  have together : Reader.Follows .start .start := ⟨rfl, rfl, List.cons_ne_nil _ _⟩
  obtain ⟨s, scanned, spot, tags, -⟩ := together.run done
  split at read
  next outermost trailing =>
    split at read
    next name attributes content only =>
      have found : some (Node.element name attributes content) = some root := by
        split at read
        · exact read
        · cases read
      obtain rfl := Option.some.inj found
      have all : s.tags = tagsOfAll outermost.content := (List.cons.inj tags).2.symm
      rw [← tagsOfAll_filter, only, tagsOfAll, tagsOfAll, List.append_nil] at all
      unfold tags?
      rw [begins, Option.bind_eq_bind, Option.bind_some, scanned]
      obtain ⟨spot', tags'⟩ := s
      dsimp only at spot all
      subst spot all
      rfl
    · cases read
  · cases read

end TestFleet.Xml
