import Mathlib.Data.List.Infix
import Mathlib.Data.List.Nodup
import TestFleet.Rule.Placeholder
/-!
# Templates whose values are put in one after the other

A template is read once, from left to right, into characters and gaps: a gap is the placeholder of a name
that has a value (`Template.pieces`). Filled in one pass, a template has the quoted values in its gaps and
is otherwise as it was written (`Template.fillOnce`). What fills templates goes over the growing text once
for each name, and so over the values put in before. The outcome is that of the one pass as long as these
values form no placeholder that is looked for after them, neither by themselves nor with the text around
them (`Template.Apart`). A value that holds a later placeholder is filled in its turn, and what is put in
there ends its quoting.
-/
namespace TestFleet

/-! ## Replacing -/

namespace Text

variable {wanted new text rest : List Char}

theorem replaceFrom_eq_drop (skipped : Nat) (cs : List Char) :
    replaceFrom wanted new skipped cs = replaceFrom wanted new 0 (cs.drop skipped) := by
  induction cs generalizing skipped with
  | nil => cases skipped <;> rfl
  | cons c cs ih =>
    cases skipped with
    | zero => rfl
    | succ skipped => exact ih skipped

/-- What stands at the front is replaced. -/
theorem replaceChars_self (full : wanted ≠ []) :
    replaceChars wanted new (wanted ++ rest) = new ++ replaceChars wanted new rest := by
  obtain ⟨c, more, rfl⟩ := List.exists_cons_of_ne_nil full
  have here : (c :: more).isPrefixOf (c :: (more ++ rest)) = true :=
    List.isPrefixOf_iff_prefix.2 (List.prefix_append (c :: more) rest)
  simp only [replaceChars, List.cons_append, replaceFrom]
  rw [if_pos here, replaceFrom_eq_drop]
  simp

/-- Where nothing begins that is replaced a character is left as it is. -/
theorem replaceChars_cons {c : Char} (here : ¬ wanted <+: c :: rest) :
    replaceChars wanted new (c :: rest) = c :: replaceChars wanted new rest := by
  rw [← List.isPrefixOf_iff_prefix] at here
  simp only [replaceChars, replaceFrom]
  rw [if_neg here]

/-- A text in which nothing begins that is replaced is left as it is. -/
theorem replaceChars_append
    (free : ∀ part, part ≠ [] → part <:+ text → ¬ wanted <+: part ++ rest) :
    replaceChars wanted new (text ++ rest) = text ++ replaceChars wanted new rest := by
  induction text with
  | nil => rfl
  | cons c text ih =>
    have here : ¬ wanted <+: c :: (text ++ rest) :=
      free (c :: text) (List.cons_ne_nil c text) (List.suffix_refl _)
    have later := ih fun part full suffix => free part full (suffix.trans (List.suffix_cons c text))
    rw [List.cons_append, replaceChars_cons here, later, List.cons_append]

end Text

/-! ## Templates -/

namespace Template

/-- A piece of a template. -/
inductive Piece where
  | char (c : Char)
  /-- The placeholder of a name, with the value for it. -/
  | gap (name value : String)
  deriving DecidableEq

/-- Reads a template, the next `skipped` characters belonging to a placeholder already read. -/
def piecesFrom (values : List (String × String)) : Nat → List Char → List Piece
  | _, [] => []
  | skipped + 1, _ :: rest => piecesFrom values skipped rest
  | 0, c :: rest =>
    match values.find? fun entry => (placeholder entry.1).isPrefixOf (c :: rest) with
    | some (name, value) =>
      .gap name value :: piecesFrom values ((placeholder name).length - 1) rest
    | none => .char c :: piecesFrom values 0 rest

/-- The pieces of a template, for the names that have values. -/
def pieces (values : List (String × String)) (template : String) : List Piece :=
  piecesFrom values 0 template.toList

/-- A piece as it is written in the template. -/
def Piece.written : Piece → List Char
  | .char c => [c]
  | .gap name _ => placeholder name

/-- A piece with the values of some names put in. -/
def Piece.filledFor (done : List String) : Piece → List Char
  | .char c => [c]
  | .gap name value => if name ∈ done then Shell.quoteChars value.toList else placeholder name

/-- A piece with its value put in. -/
def Piece.filled : Piece → List Char
  | .char c => [c]
  | .gap _ value => Shell.quoteChars value.toList

/-- A template filled in one pass: every placeholder of a name becomes the quoted value, and everything
else stays as it is. -/
def fillOnce (values : List (String × String)) (template : String) : String :=
  String.ofList ((pieces values template).flatMap Piece.filled)

/-- A name holds no brace. -/
def IsPlain (name : String) : Prop := '\x7b' ∉ name.toList ∧ '\x7d' ∉ name.toList

/-- The text from here to the next gap, if that is one of a name. -/
def lead? (name : String) : List Piece → Option (List Char)
  | [] => none
  | .char c :: rest => (lead? name rest).map (c :: ·)
  | .gap other _ :: _ => if other = name then some [] else none

/-- The texts that lead from an opening brace of the template to a gap of a name. -/
def leads (name : String) : List Piece → List (List Char)
  | [] => []
  | .char c :: rest => (if c = '\x7b' then (lead? name rest).toList else []) ++ leads name rest
  | .gap _ _ :: rest => leads name rest

/-- No placeholder of the later of two names comes about by putting in the value of the earlier one: none
begins in the value, and none begins at a brace of the template before it. -/
structure Apart (ps : List Piece) (early late : String × String) : Prop where
  within : ∀ part ∈ (Shell.quoteChars early.2.toList).tails, part ≠ [] →
    ¬ placeholder late.1 <+: part ∧ ¬ part <+: placeholder late.1
  around : ∀ text ∈ leads early.1 ps, ¬ text <+: late.1.toList

instance (name : String) : Decidable (IsPlain name) := inferInstanceAs (Decidable (_ ∧ _))

instance (ps : List Piece) (early late : String × String) : Decidable (Apart ps early late) :=
  decidable_of_iff
    ((∀ part ∈ (Shell.quoteChars early.2.toList).tails, part ≠ [] →
      ¬ placeholder late.1 <+: part ∧ ¬ part <+: placeholder late.1) ∧
      ∀ text ∈ leads early.1 ps, ¬ text <+: late.1.toList)
    ⟨fun apart => ⟨apart.1, apart.2⟩, fun apart => ⟨apart.within, apart.around⟩⟩

variable {values : List (String × String)} {template : String} {done : List String}

/-! ### Reading -/

theorem written_piecesFrom (skipped : Nat) (cs : List Char) :
    (piecesFrom values skipped cs).flatMap Piece.written = cs.drop skipped := by
  induction cs generalizing skipped with
  | nil => cases skipped <;> rfl
  | cons c rest ih =>
    cases skipped with
    | succ skipped => exact ih skipped
    | zero =>
      unfold piecesFrom
      split
      · rename_i name value found
        have here : placeholder name <+: c :: rest := by simpa using List.find?_some found
        rw [List.flatMap_cons, ih]
        exact List.prefix_iff_eq_append.1 here
      · rw [List.flatMap_cons, ih]
        rfl

/-- A template is its pieces. -/
theorem written_pieces (values : List (String × String)) (template : String) :
    (pieces values template).flatMap Piece.written = template.toList :=
  written_piecesFrom 0 _

theorem mem_of_piecesFrom {skipped : Nat} {cs : List Char} {name value : String}
    (gap : Piece.gap name value ∈ piecesFrom values skipped cs) : (name, value) ∈ values := by
  induction cs generalizing skipped with
  | nil => cases skipped <;> cases gap
  | cons c rest ih =>
    cases skipped with
    | succ skipped => exact ih gap
    | zero =>
      unfold piecesFrom at gap
      split at gap
      · rename_i found
        rcases List.mem_cons.1 gap with same | later
        · cases same
          exact List.mem_of_find?_eq_some found
        · exact ih later
      · rcases List.mem_cons.1 gap with same | later
        · cases same
        · exact ih later

/-- The gaps are those of names with their values. -/
theorem mem_of_pieces {name value : String} (gap : .gap name value ∈ pieces values template) :
    (name, value) ∈ values :=
  mem_of_piecesFrom gap

/-- Where a character stands no placeholder begins. -/
theorem not_prefix_of_char {skipped : Nat} {cs : List Char} {ahead behind : List Piece} {c : Char}
    (split : piecesFrom values skipped cs = ahead ++ .char c :: behind) {entry : String × String}
    (known : entry ∈ values) : ¬ placeholder entry.1 <+: c :: behind.flatMap Piece.written := by
  induction cs generalizing skipped ahead with
  | nil => cases skipped <;> simp [piecesFrom] at split
  | cons first rest ih =>
    cases skipped with
    | succ skipped => exact ih split
    | zero =>
      unfold piecesFrom at split
      split at split
      · cases ahead with
        | nil => cases split
        | cons _ ahead => exact ih (List.cons.inj split).2
      · rename_i none
        cases ahead with
        | nil =>
          obtain ⟨same, rfl⟩ := List.cons.inj split
          cases same
          rw [written_piecesFrom, List.drop_zero]
          exact fun here => List.find?_eq_none.1 none entry known (List.isPrefixOf_iff_prefix.2 here)
        | cons _ ahead => exact ih (List.cons.inj split).2

/-! ### Filling -/

/-- A placeholder that begins at a brace of the template either is written there or is completed by a
value that was put in. -/
theorem written_or_lead {name : List Char} (plain : '\x7b' ∉ name) {behind : List Piece}
    (here : name ++ ['\x7d'] <+: behind.flatMap (Piece.filledFor done)) :
    name ++ ['\x7d'] <+: behind.flatMap Piece.written ∨
      ∃ m ∈ done, ∃ text, lead? m behind = some text ∧ text <+: name := by
  induction behind generalizing name with
  | nil => simp at here
  | cons piece rest ih =>
    cases piece with
    | gap m value =>
      by_cases filled : m ∈ done
      · exact .inr ⟨m, filled, [], by simp [lead?], List.nil_prefix⟩
      · -- The gap begins with a brace, which no name does.
        rw [List.flatMap_cons, Piece.filledFor, if_neg filled] at here
        cases name with
        | nil => simp [placeholder] at here
        | cons a name =>
          obtain ⟨rfl, -⟩ := List.cons_prefix_cons.1 here
          exact absurd List.mem_cons_self plain
    | char c =>
      cases name with
      | nil => exact .inl (List.cons_prefix_cons.2 ⟨(List.cons_prefix_cons.1 here).1, List.nil_prefix⟩)
      | cons a name =>
        obtain ⟨rfl, others⟩ := List.cons_prefix_cons.1 here
        rcases ih (fun inside => plain (List.mem_cons_of_mem _ inside)) others with
          written | ⟨m, filled, text, led, ahead⟩
        · exact .inl (List.cons_prefix_cons.2 ⟨rfl, written⟩)
        · exact .inr ⟨m, filled, a :: text, by simp [lead?, led],
            List.cons_prefix_cons.2 ⟨rfl, ahead⟩⟩

theorem exists_gap_of_lead {name : String} {behind : List Piece} {text : List Char}
    (led : lead? name behind = some text) : ∃ value, .gap name value ∈ behind := by
  induction behind generalizing text with
  | nil => cases led
  | cons piece rest ih =>
    cases piece with
    | char c =>
      obtain ⟨text, led, -⟩ := Option.map_eq_some_iff.1 led
      obtain ⟨value, gap⟩ := ih led
      exact ⟨value, List.mem_cons_of_mem _ gap⟩
    | gap other value =>
      unfold lead? at led
      split at led
      · rename_i same
        subst same
        exact ⟨value, List.mem_cons_self⟩
      · cases led

theorem mem_leads {name : String} {ahead behind : List Piece} {text : List Char}
    (led : lead? name behind = some text) :
    text ∈ leads name (ahead ++ .char '\x7b' :: behind) := by
  induction ahead with
  | nil => simp [leads, led]
  | cons piece rest ih => cases piece <;> simp [leads, ih]

/-- Two placeholders do not begin at the same place. -/
theorem eq_of_placeholder_begins {name other : String} {rest : List Char} (plain : IsPlain name)
    (plain' : IsPlain other) (here : placeholder name <+: placeholder other ++ rest) :
    name = other := by
  obtain ⟨more, same⟩ := here
  have inner : name.toList ++ '\x7d' :: more = other.toList ++ '\x7d' :: rest := by
    simpa [placeholder] using same
  refine String.toList_inj.1 ?_
  rcases List.append_eq_append_iff.1 inner with ⟨extra, longer, split⟩ | ⟨extra, longer, split⟩
  · cases extra with
    | nil => simpa using longer.symm
    | cons c extra =>
      obtain ⟨rfl, -⟩ := List.cons.inj split
      exact absurd (by simp [longer]) plain'.2
  · cases extra with
    | nil => simpa using longer
    | cons c extra =>
      obtain ⟨rfl, -⟩ := List.cons.inj split
      exact absurd (by simp [longer]) plain.2

/-- A part of a placeholder other than the whole begins with no brace. -/
theorem not_prefix_of_rest {name other : String} (plain' : IsPlain other) {part rest : List Char}
    (full : part ≠ []) (suffix : part <:+ other.toList ++ ['\x7d']) :
    ¬ placeholder name <+: part ++ rest := by
  intro here
  obtain ⟨c, part, rfl⟩ := List.exists_cons_of_ne_nil full
  obtain ⟨rfl, -⟩ := List.cons_prefix_cons.1 here
  have inside := suffix.subset List.mem_cons_self
  simp only [List.mem_append, List.mem_singleton] at inside
  exact inside.elim plain'.1 (by decide)

/-- **One name is filled in.** What stands for it is all that is replaced. -/
theorem replaceChars_filledFor {name value : String} (plain : ∀ entry ∈ values, IsPlain entry.1)
    (known : (name, value) ∈ values) (fresh : name ∉ done)
    (one : ∀ other, (name, other) ∈ values → other = value)
    (apart : ∀ entry ∈ values, entry.1 ∈ done → Apart (pieces values template) entry (name, value))
    {ahead rest : List Piece} (split : pieces values template = ahead ++ rest) :
    Text.replaceChars (placeholder name) (Shell.quoteChars value.toList)
        (rest.flatMap (Piece.filledFor done)) =
      rest.flatMap (Piece.filledFor (done ++ [name])) := by
  induction rest generalizing ahead with
  | nil => rfl
  | cons piece rest ih =>
    have longer : pieces values template = (ahead ++ [piece]) ++ rest := by simp [split]
    have others := ih longer
    rw [List.flatMap_cons, List.flatMap_cons, ← others]
    cases piece with
    | char c =>
      -- A placeholder begins here only if it is written here, and then there would be a gap.
      refine Text.replaceChars_cons fun here => ?_
      obtain ⟨rfl, inner⟩ := List.cons_prefix_cons.1 here
      rcases written_or_lead (plain _ known).1 inner with written | ⟨m, filled, text, led, within⟩
      · exact not_prefix_of_char split known (List.cons_prefix_cons.2 ⟨rfl, written⟩)
      · obtain ⟨other, gap⟩ := exists_gap_of_lead led
        have member : (m, other) ∈ values := mem_of_pieces (by rw [split]; simp [gap])
        exact (apart _ member filled).around text (split ▸ mem_leads led) within
    | gap m other =>
      have member : (m, other) ∈ values := mem_of_pieces (by rw [split]; simp)
      by_cases same : m = name
      · subst same
        obtain rfl := one other member
        simp only [Piece.filledFor, if_neg fresh, List.mem_append, List.mem_singleton, or_true, if_true]
        exact Text.replaceChars_self (by simp [placeholder])
      · by_cases filled : m ∈ done
        · simp only [Piece.filledFor, filled, List.mem_append, true_or, if_true]
          refine Text.replaceChars_append fun part full suffix here => ?_
          obtain ⟨apart₁, apart₂⟩ :=
            (apart _ member filled).within part ((List.mem_tails _ _).2 suffix) full
          rcases List.prefix_or_prefix_of_prefix here (List.prefix_append part _) with short | long
          · exact apart₁ short
          · exact apart₂ long
        · simp only [Piece.filledFor, filled, List.mem_append, List.mem_singleton, same, or_self,
            if_false]
          refine Text.replaceChars_append fun part full suffix here => ?_
          rcases List.suffix_cons_iff.1 suffix with rfl | inner
          · exact same (eq_of_placeholder_begins (plain _ known) (plain _ member) here).symm
          · exact not_prefix_of_rest (plain _ member) full inner here

/-- All names are filled in, one after the other. -/
theorem foldl_filledFor (plain : ∀ entry ∈ values, IsPlain entry.1) {earlier later : List (String × String)}
    (split : values = earlier ++ later) (distinct : (values.map Prod.fst).Nodup)
    (apart : values.Pairwise (Apart (pieces values template))) :
    later.foldl (fun text (name, value) =>
        Text.replaceChars (placeholder name) (Shell.quoteChars value.toList) text)
        ((pieces values template).flatMap (Piece.filledFor (earlier.map Prod.fst))) =
      (pieces values template).flatMap (Piece.filledFor (values.map Prod.fst)) := by
  induction later generalizing earlier with
  | nil => rw [split, List.append_nil, List.foldl_nil]
  | cons entry later ih =>
    obtain ⟨name, value⟩ := entry
    have known : (name, value) ∈ values := by simp [split]
    have fresh : name ∉ earlier.map Prod.fst := by
      have across := distinct
      rw [split, List.map_append, List.map_cons] at across
      exact fun early => (List.nodup_append.1 across).2.2 name early name List.mem_cons_self rfl
    have one (other : String) (known' : (name, other) ∈ values) : other = value :=
      (Prod.mk.inj (List.inj_on_of_nodup_map distinct known' known rfl)).2
    have behind (entry : String × String) (member : entry ∈ values)
        (early : entry.1 ∈ earlier.map Prod.fst) :
        Apart (pieces values template) entry (name, value) := by
      obtain ⟨entry', ahead, same⟩ := List.mem_map.1 early
      obtain rfl := List.inj_on_of_nodup_map distinct (by simp [split, ahead]) member same
      have across : (earlier ++ (name, value) :: later).Pairwise
          (Apart (pieces values template)) := by
        rwa [← split]
      exact (List.pairwise_append.1 across).2.2 entry' ahead _ List.mem_cons_self
    have filled := replaceChars_filledFor plain known fresh one behind (List.nil_append _).symm
    have longer : values = (earlier ++ [(name, value)]) ++ later := by simp [split]
    have next := ih longer
    rw [List.map_append] at next
    simp only [List.foldl_cons, filled]
    exact next

end Template

open Template in
/-- Putting in the values one after the other is filling the template in one pass, if none of them makes a
placeholder of a later name. -/
theorem substitute_eq_fillOnce {values : List (String × String)} {template : String}
    (plain : ∀ entry ∈ values, IsPlain entry.1) (distinct : (values.map Prod.fst).Nodup)
    (apart : values.Pairwise (Apart (pieces values template))) :
    substitute values template = fillOnce values template := by
  have unfilled : (pieces values template).flatMap (Piece.filledFor []) = template.toList := by
    rw [← written_pieces values template]
    exact List.flatMap_congr fun piece _ => by cases piece <;> simp [Piece.filledFor, Piece.written]
  have filled : (pieces values template).flatMap (Piece.filledFor (values.map Prod.fst)) =
      (pieces values template).flatMap Piece.filled := by
    refine List.flatMap_congr fun piece known => ?_
    cases piece with
    | char c => rfl
    | gap name value => exact if_pos (List.mem_map_of_mem (mem_of_pieces known))
  have all := foldl_filledFor plain (List.nil_append values).symm distinct apart
  rw [List.map_nil, unfilled, filled] at all
  exact congrArg String.ofList all

namespace Sample

/-- Values of which two hold braces. -/
def braced : List (String × String) :=
  [("class", "Suite\x7b1\x7d"), ("device", "emulator 5554"), ("method", "it's \x7bnew\x7d")]

/-- A command with braces of its own. -/
def command : String :=
  "cd $\x7bHOME\x7d && run -s \x7bdevice\x7d \x7bclass\x7d#\x7bmethod\x7d"

/-- A class whose name looks like the placeholder of the method, and a method of two words. -/
def nested : List (String × String) := [("class", "the \x7bmethod\x7d"), ("method", "a b")]

end Sample

open Sample in
/-- Braces in values and around placeholders do no harm as long as they enclose no later name. -/
theorem filled_once_of_braced :
    (∀ entry ∈ braced, Template.IsPlain entry.1) ∧ (braced.map Prod.fst).Nodup ∧
      braced.Pairwise (Template.Apart (Template.pieces braced command)) ∧
      substitute braced command = Template.fillOnce braced command ∧
      Template.fillOnce braced command =
        "cd $\x7bHOME\x7d && run -s 'emulator 5554' Suite\x7b1\x7d#'it'\\''s \x7bnew\x7d'" := by
  have plain : ∀ entry ∈ braced, Template.IsPlain entry.1 := by decide
  have distinct : (braced.map Prod.fst).Nodup := by decide
  have apart : braced.Pairwise (Template.Apart (Template.pieces braced command)) := by decide
  exact ⟨plain, distinct, apart, substitute_eq_fillOnce plain distinct apart, by decide⟩

open Sample in
/-- A value that holds the placeholder of a later name is filled in its turn, within its own quotes. -/
theorem refilled_of_nested :
    (∀ entry ∈ nested, Template.IsPlain entry.1) ∧ (nested.map Prod.fst).Nodup ∧
      substitute nested "\x7bclass\x7d" = "'the 'a b''" ∧
      Template.fillOnce nested "\x7bclass\x7d" = "'the \x7bmethod\x7d'" ∧
      substitute nested "\x7bclass\x7d" ≠ Template.fillOnce nested "\x7bclass\x7d" := by
  decide

end TestFleet
