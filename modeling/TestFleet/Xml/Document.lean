import TestFleet.Text.Blank
/-!
# XML documents

An element holds other elements, which stand on lines of their own, or text, which stands straight
between its tags; an element may also be a single tag. A document is written as a list of pieces,
so that its tags can be spoken of apart from what is in them (`Piece.text`). What is escaped, and
where lines begin, is as the writer of quick-xml has it that indents by two blanks.
-/
namespace TestFleet.Xml

/-- The attributes of an element, in written order. -/
abbrev Attributes := List (String × String)

/-- An element and what is in it. -/
inductive Element where
  /-- Holds elements. -/
  | branch (name : String) (attributes : Attributes) (children : List Element)
  /-- Holds text. -/
  | leaf (name : String) (attributes : Attributes) (content : String)
  /-- Is a single tag. -/
  | single (name : String) (attributes : Attributes)
  deriving Inhabited

/-- A piece of a written document. -/
inductive Piece where
  | opening (name : String) (attributes : Attributes)
  | closing (name : String)
  | single (name : String) (attributes : Attributes)
  | content (text : String)
  /-- A new line and the blanks of a level. -/
  | line (level : Nat)
  deriving DecidableEq, Repr

mutual

/-- The pieces of an element at a level. -/
def Element.pieces (level : Nat) : Element → List Piece
  | .branch name attributes children =>
    .line level :: .opening name attributes
      :: (piecesOfAll (level + 1) children ++ [.line level, .closing name])
  | .leaf name attributes content =>
    [.line level, .opening name attributes, .content content, .closing name]
  | .single name attributes => [.line level, .single name attributes]

/-- The pieces of elements at a level. -/
def piecesOfAll (level : Nat) : List Element → List Piece
  | [] => []
  | e :: rest => e.pieces level ++ piecesOfAll level rest

end

/-- A character as text and attributes hold it. -/
def escaped (c : Char) : List Char :=
  if c = '<' then "&lt;".toList
  else if c = '>' then "&gt;".toList
  else if c = '&' then "&amp;".toList
  else if c.toNat = 0x27 then "&apos;".toList
  else if c = '"' then "&quot;".toList
  else [c]

/-- A text as text and attributes hold it. -/
def escape (s : String) : List Char := s.toList.flatMap escaped

/-- The attributes as a tag holds them. -/
def attributeText (attributes : Attributes) : List Char :=
  attributes.flatMap fun (name, value) =>
    ' ' :: name.toList ++ ['=', '"'] ++ escape value ++ ['"']

/-- The text of a piece. -/
def Piece.text : Piece → List Char
  | .opening name attributes => '<' :: name.toList ++ attributeText attributes ++ ['>']
  | .closing name => ['<', '/'] ++ name.toList ++ ['>']
  | .single name attributes => '<' :: name.toList ++ attributeText attributes ++ ['/', '>']
  | .content s => escape s
  | .line level => '\n' :: List.replicate (2 * level) ' '

/-- What every document begins with. -/
def declaration : String := "<?xml version=\"1.0\" encoding=\"UTF-8\"?>"

/-- The text of a document. -/
def render (root : Element) : String :=
  String.ofList (declaration.toList ++ (root.pieces 0).flatMap Piece.text)

end TestFleet.Xml
