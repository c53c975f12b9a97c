import TestFleet.Xml.Document
/-!
# Reading documents back

A reader of documents that knows nothing of how they are written: it goes through the characters one
by one (`Reader.step`), with the elements that are open and where in a tag or between tags it
stands. Text and the values of attributes have their five entities put back (`unescape?`); it is not
the reader's business to change the ends of lines. What is written is read back, tag for tag and
letter for letter (`read?_render`).
-/
namespace TestFleet.Xml

/-! ## What documents say -/

/-- A text, or an element and what is in it. -/
inductive Node where
  | text (content : String)
  | element (name : String) (attributes : Attributes) (content : List Node)
  deriving Inhabited

namespace Node

/-- What is in an element. -/
def content : Node → List Node
  | .text _ => []
  | .element _ _ content => content

/-- The name of an element. -/
def name? : Node → Option String
  | .text _ => none
  | .element name _ _ => some name

/-- The value of an attribute of an element. -/
def attribute? (key : String) : Node → Option String
  | .text _ => none
  | .element _ attributes _ => attributes.lookup key

/-- The elements of a name that stand in an element. -/
def named (name : String) (node : Node) : List Node :=
  node.content.filter fun n => n.name? == some name

/-- The text in an element that holds nothing else. -/
def soleText? : Node → Option String
  | .element _ _ [] => some ""
  | .element _ _ [.text content] => some content
  | _ => none

/-- Whether nothing but white space stands there. -/
def isBlank : Node → Bool
  | .text content => content.toList.all Text.isBlank
  | .element _ _ _ => false

end Node

/-! ## The reader -/

/-- Characters with the entities in them put back. -/
def unescape? : List Char → Option (List Char)
  | '&' :: 'l' :: 't' :: ';' :: rest => (unescape? rest).map ('<' :: ·)
  | '&' :: 'g' :: 't' :: ';' :: rest => (unescape? rest).map ('>' :: ·)
  | '&' :: 'a' :: 'm' :: 'p' :: ';' :: rest => (unescape? rest).map ('&' :: ·)
  | '&' :: 'a' :: 'p' :: 'o' :: 's' :: ';' :: rest => (unescape? rest).map (Char.ofNat 0x27 :: ·)
  | '&' :: 'q' :: 'u' :: 'o' :: 't' :: ';' :: rest => (unescape? rest).map ('"' :: ·)
  | '&' :: _ => none
  | c :: rest => (unescape? rest).map (c :: ·)
  | [] => some []

theorem unescape?_plain {c : Char} {rest : List Char} (plain : c ≠ '&') :
    unescape? (c :: rest) = (unescape? rest).map (c :: ·) := by
  rw [unescape?]
  all_goals simp [plain]

theorem unescape?_escaped (c : Char) (rest : List Char) :
    unescape? (escaped c ++ rest) = (unescape? rest).map (c :: ·) := by
  unfold escaped
  split
  next h => subst h; rfl
  split
  next h => subst h; rfl
  split
  next h => subst h; rfl
  split
  next h =>
    obtain rfl : c = Char.ofNat 0x27 := Char.toNat_inj.1 h
    rfl
  split
  next h => subst h; rfl
  next notAmp _ _ => exact unescape?_plain notAmp

/-- A text is what its escaped characters stand for. -/
theorem unescape?_escape (s : String) : unescape? (escape s) = some s.toList := by
  unfold escape
  induction s.toList with
  | nil => rfl
  | cons c rest ih => rw [List.flatMap_cons, unescape?_escaped, ih]; rfl

/-- The characters of names. -/
def isNameChar (c : Char) : Bool := c.isAlphanum || c == '-' || c == '_' || c == '.' || c == ':'

/-- An element that is open, and what was in it so far. -/
structure Frame where
  name : String
  attributes : Attributes
  content : List Node

/-- Where a reader stands, with the characters it has read there. -/
inductive Position where
  /-- Between tags. -/
  | text (read : List Char)
  /-- After the sign that opens a tag. -/
  | opened
  | closing (read : List Char)
  | name (read : List Char)
  /-- After the name in a tag, or after an attribute. -/
  | inside (name : String) (attributes : Attributes)
  | attribute (name : String) (attributes : Attributes) (read : List Char)
  /-- Before the value of an attribute. -/
  | equals (name : String) (attributes : Attributes) (key : String)
  | value (name : String) (attributes : Attributes) (key : String) (read : List Char)
  /-- Before the end of a single tag. -/
  | ending (name : String) (attributes : Attributes)

/-- A reader: the elements that are open, the innermost first, and where it stands. -/
structure Reader where
  frames : List Frame
  position : Position

namespace Reader

/-- Puts nodes at the end of the innermost element. -/
def add (nodes : List Node) : List Frame → List Frame
  | [] => []
  | frame :: rest => { frame with content := frame.content ++ nodes } :: rest

/-- The node of a text; no text is no node. -/
def textNodes (text : String) : List Node := if text = "" then [] else [.text text]

/-- Closes the innermost element, which must have the name. -/
def close (name : String) : List Frame → Option (List Frame)
  | frame :: around :: rest =>
    if frame.name = name then
      some (add [.element frame.name frame.attributes frame.content] (around :: rest))
    else none
  | _ => none

/-- Reads a character after the name in a tag or after an attribute. -/
def stepInside (frames : List Frame) (name : String) (attributes : Attributes) (c : Char) :
    Option Reader :=
  if c = ' ' then some ⟨frames, .attribute name attributes []⟩
  else if c = '/' then some ⟨frames, .ending name attributes⟩
  else if c = '>' then some ⟨⟨name, attributes, []⟩ :: frames, .text []⟩
  else none

/-- Reads a character. -/
def step (r : Reader) (c : Char) : Option Reader :=
  let ⟨frames, position⟩ := r
  match position with
  | .text read =>
    if c = '<' then
      (unescape? read).map fun text => ⟨add (textNodes (String.ofList text)) frames, .opened⟩
    else some ⟨frames, .text (read ++ [c])⟩
  | .opened =>
    if c = '/' then some ⟨frames, .closing []⟩
    else if isNameChar c then some ⟨frames, .name [c]⟩
    else none
  | .closing read =>
    if isNameChar c then some ⟨frames, .closing (read ++ [c])⟩
    else if c = '>' then (close (String.ofList read) frames).map (⟨·, .text []⟩)
    else none
  | .name read =>
    if isNameChar c then some ⟨frames, .name (read ++ [c])⟩
    else stepInside frames (String.ofList read) [] c
  | .inside name attributes => stepInside frames name attributes c
  | .attribute name attributes read =>
    if isNameChar c then some ⟨frames, .attribute name attributes (read ++ [c])⟩
    else if c = '=' then some ⟨frames, .equals name attributes (String.ofList read)⟩
    else none
  | .equals name attributes key =>
    if c = '"' then some ⟨frames, .value name attributes key []⟩ else none
  | .value name attributes key read =>
    if c = '"' then
      (unescape? read).map fun value =>
        ⟨frames, .inside name (attributes ++ [(key, String.ofList value)])⟩
    else if c = '<' then none
    else some ⟨frames, .value name attributes key (read ++ [c])⟩
  | .ending name attributes =>
    if c = '>' then some ⟨add [.element name attributes []] frames, .text []⟩ else none

/-- Reads characters. -/
def run (r : Reader) (cs : List Char) : Option Reader := cs.foldlM step r

/-- The reader before a document. -/
def start : Reader := ⟨[⟨"", [], []⟩], .text []⟩

end Reader

/-- The root element of a document, which has nothing but white space around it. -/
def read? (document : String) : Option Node := do
  let body ← Text.dropLeading? declaration.toList document.toList
  match ← Reader.start.run body with
  | ⟨[outermost], .text trailing⟩ =>
    match outermost.content.filter (!·.isBlank) with
    | [.element name attributes content] =>
      if trailing.all Text.isBlank then some (.element name attributes content) else none
    | _ => none
  | _ => none

/-! ## What is written -/

/-- A new line and the blanks of a level. -/
def lineText (level : Nat) : String := String.ofList (Piece.line level).text

theorem mem_line {level : Nat} {c : Char} (hc : c ∈ (Piece.line level).text) :
    c = '\n' ∨ c = ' ' := by
  rcases List.mem_cons.1 hc with rfl | hc
  · exact .inl rfl
  · exact .inr (List.eq_of_mem_replicate hc)

theorem escape_lineText (level : Nat) : escape (lineText level) = (Piece.line level).text := by
  have plain : ∀ c ∈ (Piece.line level).text, escaped c = [c] := by
    intro c hc
    rcases mem_line hc with rfl | rfl <;> decide
  unfold escape lineText
  rw [String.toList_ofList, List.flatMap_def, List.map_congr_left plain, ← List.flatMap_def,
    List.flatMap_singleton']

/-- A text that may be the name of an element or of an attribute. -/
structure IsName (name : String) : Prop where
  nonempty : name.toList ≠ []
  letters : name.toList.all isNameChar = true

instance (name : String) : Decidable (IsName name) :=
  decidable_of_iff (name.toList ≠ [] ∧ name.toList.all isNameChar = true)
    ⟨fun ⟨a, b⟩ => ⟨a, b⟩, fun ⟨a, b⟩ => ⟨a, b⟩⟩

theorem IsName.isNameChar_of_mem {name : String} (h : IsName name) {c : Char}
    (hc : c ∈ name.toList) : isNameChar c = true :=
  List.all_eq_true.1 h.letters c hc

theorem isName_of_keys {attributes : Attributes}
    (keys : ∀ key ∈ attributes.map Prod.fst, IsName key) : ∀ entry ∈ attributes, IsName entry.1 :=
  fun _ h => keys _ (List.mem_map_of_mem h)

namespace Reader

variable {frames : List Frame} {name key : String} {attributes more : Attributes} {cs : List Char}

theorem run_append {r r' : Reader} (first : r.run cs = some r') (rest : List Char) :
    r.run (cs ++ rest) = r'.run rest := by
  unfold run at first ⊢
  rw [List.foldlM_append, first]
  rfl

theorem run_cons (r : Reader) (c : Char) (cs : List Char) :
    r.run (c :: cs) = (r.step c).bind (·.run cs) := rfl

/-- Where characters are only gathered, they all are. -/
theorem run_gathering {position : List Char → Position} (read : List Char)
    (gathers : ∀ c ∈ cs, ∀ read,
      step ⟨frames, position read⟩ c = some ⟨frames, position (read ++ [c])⟩) :
    run ⟨frames, position read⟩ cs = some ⟨frames, position (read ++ cs)⟩ := by
  induction cs generalizing read with
  | nil => rw [List.append_nil]; rfl
  | cons c rest ih =>
    obtain ⟨first, others⟩ := List.forall_mem_cons.1 gathers
    rw [run_cons, first, Option.bind_some, ih _ others, List.append_assoc]
    rfl

theorem plain_escaped (c : Char) : (escaped c).all (fun c => c != '<' && c != '"') = true := by
  unfold escaped
  repeat' split
  · rfl
  · rfl
  · rfl
  · rfl
  · rfl
  next notOpen _ _ _ notQuote => simp [notOpen, notQuote]

theorem plain_of_mem_escape {c : Char} {s : String} (hc : c ∈ escape s) : c ≠ '<' ∧ c ≠ '"' := by
  obtain ⟨d, -, hc⟩ := List.mem_flatMap.1 hc
  simpa using List.all_eq_true.1 (plain_escaped d) c hc

theorem run_text (read : List Char) (plain : ∀ c ∈ cs, c ≠ '<') :
    run ⟨frames, .text read⟩ cs = some ⟨frames, .text (read ++ cs)⟩ :=
  run_gathering read fun c hc read => by simp [step, plain c hc]

theorem run_attribute (named : IsName key) (value : String) :
    run ⟨frames, .inside name attributes⟩
        (' ' :: key.toList ++ ['=', '"'] ++ escape value ++ ['"']) =
      some ⟨frames, .inside name (attributes ++ [(key, value)])⟩ := by
  have equals : isNameChar '=' = false := by decide
  have blank : run ⟨frames, .inside name attributes⟩ [' '] =
      some ⟨frames, .attribute name attributes []⟩ := rfl
  have letters : run ⟨frames, .attribute name attributes []⟩ key.toList =
      some ⟨frames, .attribute name attributes key.toList⟩ :=
    run_gathering [] fun c hc read => by simp [step, named.isNameChar_of_mem hc]
  have opening : run ⟨frames, .attribute name attributes key.toList⟩ ['=', '"'] =
      some ⟨frames, .value name attributes key []⟩ := by
    simp [step, equals, run]
  have inQuotes : run ⟨frames, .value name attributes key []⟩ (escape value) =
      some ⟨frames, .value name attributes key (escape value)⟩ :=
    run_gathering [] fun c hc read => by simp [step, plain_of_mem_escape hc]
  have closing : run ⟨frames, .value name attributes key (escape value)⟩ ['"'] =
      some ⟨frames, .inside name (attributes ++ [(key, value)])⟩ := by
    simp [step, unescape?_escape, run]
  rw [List.append_assoc, List.append_assoc, ← List.singleton_append, List.append_assoc,
    run_append blank, run_append letters, run_append opening, run_append inQuotes, closing]

theorem run_attributes (named : ∀ entry ∈ more, IsName entry.1) :
    run ⟨frames, .inside name attributes⟩ (attributeText more) =
      some ⟨frames, .inside name (attributes ++ more)⟩ := by
  induction more generalizing attributes with
  | nil => rw [List.append_nil]; rfl
  | cons entry rest ih =>
    obtain ⟨first, others⟩ := List.forall_mem_cons.1 named
    have all : run ⟨frames, .inside name (attributes ++ [entry])⟩ (attributeText rest) =
        some ⟨frames, .inside name (attributes ++ [entry] ++ rest)⟩ := ih others
    rw [List.append_assoc] at all
    rw [attributeText, List.flatMap_cons, run_append (run_attribute first entry.2)]
    exact all

/-- After a name what is no letter of it is read as after an attribute. -/
theorem run_name {c : Char} (ends : isNameChar c = false) :
    run ⟨frames, .name name.toList⟩ (c :: cs) = run ⟨frames, .inside name []⟩ (c :: cs) := by
  simp [run_cons, step, ends]

/-- A tag is read up to what ends it. -/
theorem run_tag (text : String) (named : IsName name) (keys : ∀ entry ∈ more, IsName entry.1)
    {last : Char} (ends : isNameChar last = false) :
    run ⟨frames, .text (escape text)⟩ ('<' :: name.toList ++ attributeText more ++ last :: cs) =
      run ⟨add (textNodes text) frames, .inside name more⟩ (last :: cs) := by
  have slash : isNameChar '/' = false := by decide
  have opened : run ⟨frames, .text (escape text)⟩ ['<'] =
      some ⟨add (textNodes text) frames, .opened⟩ := by
    simp [step, unescape?_escape, run]
  have letters : run ⟨add (textNodes text) frames, .opened⟩ name.toList =
      some ⟨add (textNodes text) frames, .name name.toList⟩ := by
    have letters : ∀ c ∈ name.toList, isNameChar c = true := fun c hc => named.isNameChar_of_mem hc
    cases own : name.toList with
    | nil => exact absurd own named.nonempty
    | cons c rest =>
      obtain ⟨first, others⟩ := List.forall_mem_cons.1 (own ▸ letters)
      have notSlash : c ≠ '/' := fun same => by simp [same, slash] at first
      have start : step ⟨add (textNodes text) frames, .opened⟩ c =
          some ⟨add (textNodes text) frames, .name [c]⟩ := by
        simp [step, notSlash, first]
      rw [run_cons, start, Option.bind_some]
      exact run_gathering [c] fun c hc read => by simp [step, others c hc]
  have inside : run ⟨add (textNodes text) frames, .name name.toList⟩
      (attributeText more ++ last :: cs) =
      run ⟨add (textNodes text) frames, .inside name []⟩ (attributeText more ++ last :: cs) := by
    cases more with
    | nil => exact run_name ends
    | cons entry rest => exact run_name (by decide : isNameChar ' ' = false)
  rw [← List.singleton_append, List.append_assoc, List.append_assoc, run_append opened,
    run_append letters, inside, run_append (run_attributes keys), List.nil_append]

/-! ### Pieces -/

theorem add_add (xs ys : List Node) (frames : List Frame) :
    add ys (add xs frames) = add (xs ++ ys) frames := by
  cases frames with
  | nil => rfl
  | cons frame rest => simp [add]

theorem run_opening (text : String) (named : IsName name)
    (keys : ∀ entry ∈ more, IsName entry.1) :
    run ⟨frames, .text (escape text)⟩ (Piece.opening name more).text =
      some ⟨⟨name, more, []⟩ :: add (textNodes text) frames, .text []⟩ :=
  run_tag text named keys (by decide)

theorem run_single (text : String) (named : IsName name) (keys : ∀ entry ∈ more, IsName entry.1) :
    run ⟨frames, .text (escape text)⟩ (Piece.single name more).text =
      some ⟨add (textNodes text ++ [.element name more []]) frames, .text []⟩ := by
  rw [← add_add]
  exact run_tag text named keys (by decide)

theorem run_closing (text : String) (named : IsName name) {content : List Node} {around : Frame} :
    run ⟨⟨name, attributes, content⟩ :: around :: frames, .text (escape text)⟩
        (Piece.closing name).text =
      some ⟨add [.element name attributes (content ++ textNodes text)] (around :: frames),
        .text []⟩ := by
  have ends : isNameChar '>' = false := by decide
  let inner : List Frame := ⟨name, attributes, content ++ textNodes text⟩ :: around :: frames
  have opened : run ⟨⟨name, attributes, content⟩ :: around :: frames, .text (escape text)⟩
      ['<', '/'] = some ⟨inner, .closing []⟩ := by
    simp [step, unescape?_escape, run, add, inner]
  have letters : run ⟨inner, .closing []⟩ name.toList = some ⟨inner, .closing name.toList⟩ :=
    run_gathering [] fun c hc read => by simp [step, named.isNameChar_of_mem hc]
  have closed : run ⟨inner, .closing name.toList⟩ ['>'] =
      some ⟨add [.element name attributes (content ++ textNodes text)] (around :: frames),
        .text []⟩ := by
    simp [step, ends, close, run, inner]
  rw [Piece.text, List.append_assoc, run_append opened, run_append letters, closed]

theorem run_content (content : String) :
    run ⟨frames, .text []⟩ (Piece.content content).text =
      some ⟨frames, .text (escape content)⟩ :=
  run_text [] fun _ hc => (plain_of_mem_escape hc).1

theorem run_line (level : Nat) :
    run ⟨frames, .text []⟩ (Piece.line level).text =
      some ⟨frames, .text (escape (lineText level))⟩ := by
  rw [escape_lineText]
  refine run_text [] fun c hc => ?_
  rcases mem_line hc with rfl | rfl <;> decide

end Reader

/-! ### Elements -/

mutual

/-- Names all over an element that are names. -/
def Element.WellNamed : Element → Prop
  | .branch name attributes children =>
    IsName name ∧ (∀ entry ∈ attributes, IsName entry.1) ∧ AllWellNamed children
  | .leaf name attributes _ | .single name attributes =>
    IsName name ∧ ∀ entry ∈ attributes, IsName entry.1

def AllWellNamed : List Element → Prop
  | [] => True
  | e :: rest => e.WellNamed ∧ AllWellNamed rest

end

mutual

/-- What an element says that is written at a level. -/
def Element.node (level : Nat) : Element → Node
  | .branch name attributes children =>
    .element name attributes (nodesOfAll (level + 1) children ++ [.text (lineText level)])
  | .leaf name attributes content => .element name attributes (Reader.textNodes content)
  | .single name attributes => .element name attributes []

/-- What elements say, each on a line of its own. -/
def nodesOfAll (level : Nat) : List Element → List Node
  | [] => []
  | e :: rest => .text (lineText level) :: e.node level :: nodesOfAll level rest

end

namespace Reader

theorem textNodes_lineText (level : Nat) :
    textNodes (lineText level) = [.text (lineText level)] := by
  refine if_neg fun empty => ?_
  have letters : (Piece.line level).text = [] := by
    rw [← String.toList_ofList (l := (Piece.line level).text)]
    exact congrArg String.toList empty
  cases letters

mutual

/-- An element that is written is read as what it says. -/
theorem run_pieces (level : Nat) (e : Element) (named : e.WellNamed) (f : Frame)
    (frames : List Frame) :
    run ⟨f :: frames, .text []⟩ ((e.pieces level).flatMap Piece.text) =
      some ⟨add [.text (lineText level), e.node level] (f :: frames), .text []⟩ := by
  let around : Frame := { f with content := f.content ++ [.text (lineText level)] }
  have before : run ⟨f :: frames, .text []⟩ (Piece.line level).text =
      some ⟨f :: frames, .text (escape (lineText level))⟩ := run_line level
  have opening (name : String) (attributes : Attributes) (own : IsName name)
      (keys : ∀ entry ∈ attributes, IsName entry.1) :
      run ⟨f :: frames, .text (escape (lineText level))⟩ (Piece.opening name attributes).text =
        some ⟨⟨name, attributes, []⟩ :: around :: frames, .text []⟩ := by
    rw [run_opening (lineText level) own keys, textNodes_lineText]
    rfl
  cases e with
  | branch name attributes children =>
    obtain ⟨own, keys, inner⟩ := named
    let nodes := nodesOfAll (level + 1) children
    have all : run ⟨⟨name, attributes, []⟩ :: around :: frames, .text []⟩
        ((piecesOfAll (level + 1) children).flatMap Piece.text) =
        some ⟨⟨name, attributes, nodes⟩ :: around :: frames, .text []⟩ :=
      run_piecesOfAll (level + 1) children inner _ _
    have after : run ⟨⟨name, attributes, nodes⟩ :: around :: frames, .text []⟩
        (Piece.line level).text =
        some ⟨⟨name, attributes, nodes⟩ :: around :: frames, .text (escape (lineText level))⟩ :=
      run_line level
    simp only [Element.pieces, List.flatMap_cons, List.flatMap_append, List.flatMap_nil,
      List.append_nil]
    rw [run_append before, run_append (opening name attributes own keys), run_append all,
      run_append after, run_closing (lineText level) own, textNodes_lineText]
    simp [add, around, nodes, Element.node]
  | leaf name attributes content =>
    obtain ⟨own, keys⟩ := named
    simp only [Element.pieces, List.flatMap_cons, List.flatMap_nil, List.append_nil]
    rw [run_append before, run_append (opening name attributes own keys),
      run_append (run_content content), run_closing content own]
    simp [add, around, Element.node]
  | single name attributes =>
    obtain ⟨own, keys⟩ := named
    simp only [Element.pieces, List.flatMap_cons, List.flatMap_nil, List.append_nil]
    rw [run_append before, run_single (lineText level) own keys, textNodes_lineText]
    rfl

theorem run_piecesOfAll (level : Nat) (es : List Element) (named : AllWellNamed es) (f : Frame)
    (frames : List Frame) :
    run ⟨f :: frames, .text []⟩ ((piecesOfAll level es).flatMap Piece.text) =
      some ⟨add (nodesOfAll level es) (f :: frames), .text []⟩ := by
  cases es with
  | nil => simp [add, nodesOfAll, piecesOfAll, run]
  | cons e rest =>
    obtain ⟨first, others⟩ := named
    have one := run_pieces level e first f frames
    rw [piecesOfAll, List.flatMap_append, run_append one]
    refine (run_piecesOfAll level rest others _ frames).trans ?_
    simp [add, nodesOfAll]

end

end Reader

/-- **What is written is read back**: every tag, every attribute and every text of it. -/
theorem read?_render (e : Element) (named : e.WellNamed) : read? (render e) = some (e.node 0) := by
  have body : Text.dropLeading? declaration.toList (render e).toList =
      some ((e.pieces 0).flatMap Piece.text) := by
    rw [render, String.toList_ofList, Text.dropLeading?_append]
  have all : Reader.start.run ((e.pieces 0).flatMap Piece.text) =
      some ⟨[⟨"", [], [.text (lineText 0), e.node 0]⟩], .text []⟩ :=
    Reader.run_pieces 0 e named ⟨"", [], []⟩ []
  unfold read?
  rw [body, Option.bind_eq_bind, Option.bind_some, all]
  cases e <;> rfl

/-! ## What is in an element -/

section Inside

variable {e : Element} {es : List Element} {level : Nat}

theorem allWellNamed_iff : AllWellNamed es ↔ ∀ e ∈ es, e.WellNamed := by
  induction es with
  | nil => simp [AllWellNamed]
  | cons e rest ih => rw [AllWellNamed, ih, List.forall_mem_cons]

/-- The name of an element. -/
def Element.name : Element → String
  | .branch name _ _ | .leaf name _ _ | .single name _ => name

theorem filter_nodesOfAll (name : String) :
    (nodesOfAll level es).filter (fun n => n.name? == some name) =
      (es.filter (·.name == name)).map (Element.node level) := by
  induction es with
  | nil => rfl
  | cons e rest ih =>
    have own : (e.node level).name? = some e.name := by cases e <;> rfl
    have text : (Node.text (lineText level)).name? = none := rfl
    rw [nodesOfAll, List.filter_cons_of_neg (by simp [text]), List.filter_cons, List.filter_cons,
      ih, own]
    split <;> simp_all

/-- The elements of a name in an element are those that were written there. -/
theorem named_branch (name : String) {own : String} {attributes : Attributes} :
    ((Element.branch own attributes es).node level).named name =
      (es.filter (·.name == name)).map (Element.node (level + 1)) := by
  have text : (Node.text (lineText level)).name? = none := rfl
  rw [Node.named, Element.node, Node.content, List.filter_append, filter_nodesOfAll,
    List.filter_cons_of_neg (by simp [text]), List.filter_nil, List.append_nil]

theorem named_branch_map {α : Type} {f : α → Element} {name : String}
    (names : ∀ a, (f a).name = name) (own : String) (attributes : Attributes) (as : List α) :
    ((Element.branch own attributes (as.map f)).node level).named name =
      as.map fun a => (f a).node (level + 1) := by
  have all : ∀ e ∈ as.map f, (e.name == name) = true := by
    intro e he
    obtain ⟨a, -, rfl⟩ := List.mem_map.1 he
    exact beq_iff_eq.2 (names a)
  rw [named_branch, List.filter_eq_self.2 all, List.map_map]
  rfl

theorem soleText?_leaf {name : String} {attributes : Attributes} (content : String) :
    ((Element.leaf name attributes content).node level).soleText? = some content := by
  rw [Element.node, Reader.textNodes]
  split
  next empty => rw [empty]; rfl
  next => rfl

end Inside

end TestFleet.Xml
