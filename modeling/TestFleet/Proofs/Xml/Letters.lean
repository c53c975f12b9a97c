import TestFleet.Proofs.Xml.Reading
/-!
# The letters of a document

A document is written in characters that print in ASCII, in new lines, and in those of the texts that
its elements are given. Of all other characters it holds those of the texts, in order, and no more
(`filter_render`): escaping drops none and adds none.
-/
namespace TestFleet.Xml

/-- Whether a character prints in ASCII, the blank included. -/
def isPrinting (c : Char) : Bool := 0x20 ≤ c.toNat && c.toNat < 0x7F

/-- A property that no character of markup has: none that prints in ASCII, and not the new line. -/
structure Foreign (p : Char → Bool) : Prop where
  printing : ∀ c, isPrinting c = true → p c = false
  newLine : p '\n' = false

theorem isPrinting_of_isAlphanum {c : Char} (letter : c.isAlphanum = true) :
    isPrinting c = true := by
  have number : c.toNat = c.val.toNat := rfl
  have upper : 'A'.val.toNat = 65 ∧ 'Z'.val.toNat = 90 := ⟨rfl, rfl⟩
  have lower : 'a'.val.toNat = 97 ∧ 'z'.val.toNat = 122 := ⟨rfl, rfl⟩
  have digit : '0'.val.toNat = 48 ∧ '9'.val.toNat = 57 := ⟨rfl, rfl⟩
  have written : c.isAlphanum = (decide ('A'.val ≤ c.val ∧ c.val ≤ 'Z'.val) ||
      (decide ('a'.val ≤ c.val) && decide (c.val ≤ 'z'.val)) ||
      (decide ('0'.val ≤ c.val) && decide (c.val ≤ '9'.val))) := rfl
  rw [written] at letter
  simp only [Bool.or_eq_true, Bool.and_eq_true, decide_eq_true_iff,
    UInt32.le_iff_toNat_le] at letter
  simp only [isPrinting, Bool.and_eq_true, decide_eq_true_iff]
  omega

theorem isPrinting_of_isNameChar {c : Char} (letter : isNameChar c = true) :
    isPrinting c = true := by
  unfold isNameChar at letter
  simp only [Bool.or_eq_true, beq_iff_eq] at letter
  rcases letter with (((letter | rfl) | rfl) | rfl) | rfl
  · exact isPrinting_of_isAlphanum letter
  all_goals decide

mutual

/-- The texts that an element is given, as values of attributes and as contents, in written order. -/
def Element.texts : Element → List String
  | .branch _ attributes children => attributes.map Prod.snd ++ textsOfAll children
  | .leaf _ attributes content => attributes.map Prod.snd ++ [content]
  | .single _ attributes => attributes.map Prod.snd

/-- The texts that elements are given. -/
def textsOfAll : List Element → List String
  | [] => []
  | e :: rest => e.texts ++ textsOfAll rest

end

theorem textsOfAll_eq (es : List Element) : textsOfAll es = es.flatMap Element.texts := by
  induction es with
  | nil => rfl
  | cons e rest ih => rw [textsOfAll, ih, List.flatMap_cons]

/-- The characters of a text that have a property. -/
def picked (p : Char → Bool) (s : String) : List Char := s.toList.filter p

theorem picked_append (p : Char → Bool) (s t : String) :
    picked p (s ++ t) = picked p s ++ picked p t := by
  unfold picked
  rw [String.toList_append, List.filter_append]

namespace Foreign

variable {p : Char → Bool}

section Pieces

variable (foreign : Foreign p)
include foreign

theorem filter_printing {cs : List Char} (printing : cs.all isPrinting = true) :
    cs.filter p = [] := by
  rw [List.filter_eq_nil_iff]
  intro c hc
  rw [foreign.printing c (List.all_eq_true.1 printing c hc)]
  exact Bool.false_ne_true

theorem filter_escaped (c : Char) : (escaped c).filter p = [c].filter p := by
  have one (d : Char) (entity : List Char) (printing : isPrinting d = true)
      (letters : entity.all isPrinting = true) :
      entity.filter p = [d].filter p := by
    rw [foreign.filter_printing letters, foreign.filter_printing (by simp [printing])]
  unfold escaped
  split
  next h => subst h; exact one '<' _ (by decide) (by decide)
  split
  next h => subst h; exact one '>' _ (by decide) (by decide)
  split
  next h => subst h; exact one '&' _ (by decide) (by decide)
  split
  next h => exact one c _ (by simp [isPrinting, h]) (by decide)
  split
  next h => subst h; exact one '"' _ (by decide) (by decide)
  rfl

theorem filter_escape (s : String) : (escape s).filter p = picked p s := by
  unfold escape picked
  induction s.toList with
  | nil => rfl
  | cons c rest ih =>
    rw [List.flatMap_cons, List.filter_append, foreign.filter_escaped, ih, ← List.filter_append]
    rfl

theorem filter_name {name : String} (named : IsName name) : name.toList.filter p = [] := by
  refine foreign.filter_printing (List.all_eq_true.2 fun c hc => ?_)
  exact isPrinting_of_isNameChar (named.isNameChar_of_mem hc)

/-- Characters with others around them that tags are made of. -/
theorem filter_enclosed (cs : List Char) {before after : List Char}
    (printing : before.all isPrinting = true)
    (printing' : after.all isPrinting = true) :
    (before ++ cs ++ after).filter p = cs.filter p := by
  rw [List.filter_append, List.filter_append, foreign.filter_printing printing,
    foreign.filter_printing printing', List.nil_append, List.append_nil]

theorem filter_attributeText {attributes : Attributes}
    (keys : ∀ entry ∈ attributes, IsName entry.1) :
    (attributeText attributes).filter p = (attributes.map Prod.snd).flatMap (picked p) := by
  induction attributes with
  | nil => rfl
  | cons entry rest ih =>
    obtain ⟨key, value⟩ := entry
    obtain ⟨first, others⟩ := List.forall_mem_cons.1 keys
    have name : ([' '] ++ key.toList ++ ['=', '"']).filter p = [] := by
      rw [foreign.filter_enclosed _ (by decide) (by decide), foreign.filter_name first]
    have one : ([' '] ++ key.toList ++ ['=', '"'] ++ escape value ++ ['"']).filter p =
        picked p value := by
      rw [List.filter_append, List.filter_append, name, foreign.filter_escape]
      simp [foreign.filter_printing (show ['"'].all _ = true by decide)]
    rw [List.map_cons, List.flatMap_cons, ← ih others, ← one, ← List.filter_append]
    rfl

theorem filter_opening {name : String} {attributes : Attributes} (named : IsName name)
    (keys : ∀ entry ∈ attributes, IsName entry.1) (last : List Char)
    (printing : last.all isPrinting = true) :
    (['<'] ++ (name.toList ++ attributeText attributes) ++ last).filter p =
      (attributes.map Prod.snd).flatMap (picked p) := by
  rw [foreign.filter_enclosed _ (by decide) printing, List.filter_append, foreign.filter_name named,
    foreign.filter_attributeText keys, List.nil_append]

theorem filter_closing {name : String} (named : IsName name) :
    (Piece.closing name).text.filter p = [] := by
  rw [Piece.text, foreign.filter_enclosed _ (by decide) (by decide), foreign.filter_name named]

theorem filter_line (level : Nat) : (Piece.line level).text.filter p = [] := by
  rw [List.filter_eq_nil_iff]
  intro c hc
  rcases mem_line hc with rfl | rfl
  · rw [foreign.newLine]
    exact Bool.false_ne_true
  · rw [foreign.printing ' ' (by decide)]
    exact Bool.false_ne_true

end Pieces

mutual

theorem filter_pieces (foreign : Foreign p) (level : Nat) (e : Element) (named : e.WellNamed) :
    ((e.pieces level).flatMap Piece.text).filter p = e.texts.flatMap (picked p) := by
  have line := foreign.filter_line level
  cases e with
  | branch name attributes children =>
    obtain ⟨own, keys, inner⟩ := named
    have opening : (Piece.opening name attributes).text.filter p = _ :=
      foreign.filter_opening own keys ['>'] (by decide)
    have all := filter_piecesOfAll foreign (level + 1) children inner
    simp only [Element.pieces, List.flatMap_cons, List.flatMap_append, List.flatMap_nil,
      List.append_nil, List.filter_append, List.nil_append, line, opening, all,
      foreign.filter_closing own, Element.texts]
  | leaf name attributes content =>
    obtain ⟨own, keys⟩ := named
    have opening : (Piece.opening name attributes).text.filter p = _ :=
      foreign.filter_opening own keys ['>'] (by decide)
    have text : (Piece.content content).text.filter p = picked p content :=
      foreign.filter_escape content
    simp only [Element.pieces, List.flatMap_cons, List.flatMap_append, List.flatMap_nil,
      List.append_nil, List.filter_append, List.nil_append, line, opening, text,
      foreign.filter_closing own, Element.texts]
  | single name attributes =>
    obtain ⟨own, keys⟩ := named
    have tag : (Piece.single name attributes).text.filter p = _ :=
      foreign.filter_opening own keys ['/', '>'] (by decide)
    simp only [Element.pieces, List.flatMap_cons, List.flatMap_nil, List.append_nil,
      List.filter_append, List.nil_append, line, tag, Element.texts]

theorem filter_piecesOfAll (foreign : Foreign p) (level : Nat) (es : List Element)
    (named : AllWellNamed es) :
    ((piecesOfAll level es).flatMap Piece.text).filter p = (textsOfAll es).flatMap (picked p) := by
  cases es with
  | nil => rfl
  | cons e rest =>
    obtain ⟨first, others⟩ := named
    rw [piecesOfAll, List.flatMap_append, List.filter_append, filter_pieces foreign level e first,
      filter_piecesOfAll foreign level rest others, textsOfAll, List.flatMap_append]

end

/-- Of the characters that tags are not made of, a document holds those of its texts, in order. -/
theorem filter_render (foreign : Foreign p) (e : Element) (named : e.WellNamed) :
    (render e).toList.filter p = e.texts.flatMap (picked p) := by
  have first : declaration.toList.filter p = [] := foreign.filter_printing (by decide)
  rw [render, String.toList_ofList, List.filter_append, first, List.nil_append,
    filter_pieces foreign 0 e named]

end Foreign

end TestFleet.Xml
