import TestFleet.Proofs.Files.Destination
import TestFleet.Run.Context
/-!
# Directories of attempts

The directory of an attempt is named for its pool, its device, its test and the failures before. In
the name of the test characters that a file's name may not have are replaced, and its kind is left
out; so tests that differ there only have one directory (`AttemptContext.shared_of_replaced`), and
where neither happens attempts that differ have directories of their own
(`AttemptContext.roots_apart`).
-/
namespace TestFleet

/-! ## Names of tests -/

namespace TestCase

variable {t u : TestCase}

/-- Letters as a name has them. -/
def safely (cs : List Char) : List Char := cs.map fun c => if isSafe c then c else '_'

theorem safely_of_safe {cs : List Char} (safe : cs.all isSafe = true) : safely cs = cs :=
  (List.map_congr_left fun c hc => if_pos (List.all_eq_true.1 safe c hc)).trans (List.map_id' cs)

theorem toList_safeName (t : TestCase) :
    t.safeName.toList = safely t.qualifiedClass.toList ++ '#' :: safely t.method.toList := by
  have hash : isSafe '#' = true := by decide
  simp [safeName, display, safely, hash]

theorem isName_safeName (t : TestCase) : Files.IsName t.safeName := by
  have hash : '#' ∈ t.safeName.toList := by
    rw [toList_safeName]
    exact List.mem_append_right _ List.mem_cons_self
  have other {s : String} (without : '#' ∉ s.toList) : t.safeName ≠ s :=
    fun same => without (same ▸ hash)
  refine ⟨other (by decide), fun slash => ?solid, other (by decide), other (by decide)⟩
  have kept (c : Char) : (if isSafe c then c else '_') ≠ '/' := by
    split
    next safe => exact fun same => absurd (same ▸ safe) (by decide)
    next => decide
  rw [safeName, String.toList_ofList] at slash
  obtain ⟨c, -, eq⟩ := List.mem_map.1 slash
  exact kept c eq

/-- A test of whose class and method a name keeps all characters, and keeps them apart. -/
structure Legible (t : TestCase) : Prop where
  safeClass : t.className.toList.all isSafe = true
  safeMethod : t.method.toList.all isSafe = true
  noHash : '#' ∉ t.method.toList

/-- Tests whose classes can be told from their packages: they have one package, or classes without
dots. -/
def Comparable (t u : TestCase) : Prop :=
  t.package = u.package ∨ '.' ∉ t.className.toList ∧ '.' ∉ u.className.toList

/-- Where a mark comes last tells what is before it from what is after it. -/
theorem append_cons_inj {mark : Char} {xs xs' ys ys' : List Char} (last : mark ∉ ys)
    (last' : mark ∉ ys') (eq : xs ++ mark :: ys = xs' ++ mark :: ys') : xs = xs' ∧ ys = ys' := by
  rcases List.append_eq_append_iff.1 eq with ⟨more, rfl, tail⟩ | ⟨more, rfl, tail⟩
  all_goals cases more with
    | nil =>
      rw [List.nil_append, List.cons.injEq] at tail
      simp [tail.2]
    | cons c others =>
      rw [List.cons_append, List.cons.injEq] at tail
      exact absurd (tail.2 ▸ List.mem_append_right others List.mem_cons_self) ‹_›

theorem safely_qualifiedClass (legible : t.Legible) :
    safely t.qualifiedClass.toList =
      (if t.package.isEmpty then [] else safely t.package.toList ++ ['.']) ++
        t.className.toList := by
  have own := safely_of_safe legible.safeClass
  have dot : isSafe '.' = true := by decide
  unfold safely at own ⊢
  unfold qualifiedClass
  split
  · exact own
  · simp [own, dot]

/-- Comparable tests that are named alike up to replaced characters are of one class. -/
theorem className_of_letters (legible : t.Legible) (legible' : u.Legible)
    (comparable : t.Comparable u)
    (letters : safely t.qualifiedClass.toList = safely u.qualifiedClass.toList) :
    t.className = u.className := by
  rw [safely_qualifiedClass legible, safely_qualifiedClass legible'] at letters
  apply String.toList_inj.1
  rcases comparable with package | ⟨noDot, noDot'⟩
  · rw [package] at letters
    exact (List.append_right_inj _).1 letters
  · split at letters <;> split at letters
    · exact letters
    · exact absurd (letters ▸ by simp : '.' ∈ [] ++ t.className.toList) noDot
    · exact absurd (letters ▸ by simp : '.' ∈ [] ++ u.className.toList) noDot'
    · rw [List.append_assoc, List.append_assoc] at letters
      exact (append_cons_inj noDot noDot' letters).2

/-- The names of legible tests tell them apart, unless they differ in their kinds only. -/
theorem key_of_safeName (legible : t.Legible) (legible' : u.Legible) (comparable : t.Comparable u)
    (kind : t.kind = u.kind) (same : t.safeName = u.safeName) : t.key = u.key := by
  have letters : t.safeName.toList = u.safeName.toList := congrArg String.toList same
  rw [toList_safeName, toList_safeName, safely_of_safe legible.safeMethod,
    safely_of_safe legible'.safeMethod] at letters
  obtain ⟨classes, methods⟩ := append_cons_inj legible.noHash legible'.noHash letters
  have className : t.className = u.className :=
    className_of_letters legible legible' comparable classes
  have method : t.method = u.method := String.toList_inj.1 methods
  unfold key
  rw [kind, className, method]

end TestCase

/-! ## Directories -/

namespace AttemptContext

variable {a b c : AttemptContext}

/-- A pool and a device whose names are names of directories. -/
structure Named (c : AttemptContext) : Prop where
  pool : Files.IsName c.pool.id.name
  device : Files.IsName c.device.id.serial

/-- The names of the directories, from the output directory down to that of the attempt. -/
def steps (c : AttemptContext) : List String :=
  ["artifacts", c.pool.id.name, c.device.id.serial, c.item.test.safeName,
    "attempt-" ++ toString c.item.failures]

theorem letters_attempt (n : Nat) :
    ("attempt-" ++ toString n).toList = "attempt-".toList ++ Nat.toDigits 10 n := by
  rw [String.toList_append]
  exact congrArg _ Nat.toList_repr

theorem attempt_inj {m n : Nat} (same : "attempt-" ++ toString m = "attempt-" ++ toString n) :
    m = n := by
  have digits : Nat.toDigits 10 m = Nat.toDigits 10 n := by
    apply (List.append_right_inj "attempt-".toList).1
    rw [← letters_attempt, ← letters_attempt, same]
  rw [← Nat.ofDigitChars_ten_toDigits (n := m), digits, Nat.ofDigitChars_ten_toDigits]

theorem isName_attempt (n : Nat) : Files.IsName ("attempt-" ++ toString n) := by
  have other {s : String} (first : s.toList.head? ≠ some 'a') : "attempt-" ++ toString n ≠ s := by
    rintro rfl
    exact first (by rw [letters_attempt]; rfl)
  refine ⟨other (by decide), fun slash => ?solid, other (by decide), other (by decide)⟩
  rw [letters_attempt] at slash
  rcases List.mem_append.1 slash with slash | slash
  · exact absurd slash (by decide)
  · exact absurd (Nat.isDigit_of_mem_toDigits (by decide) (by decide) slash) (by decide)

theorem destination_artifactRoot (named : c.Named) (current : Files.Place) :
    Files.destination current c.artifactRoot =
      Files.destination current c.onDevice.inPool.run.outputDir ++ c.steps := by
  have plain : ∀ name ∈ c.steps, Files.IsName name := by
    simp only [steps, List.forall_mem_cons]
    exact ⟨by decide, named.pool, named.device, c.item.test.isName_safeName,
      isName_attempt c.item.failures, List.forall_mem_nil _⟩
  exact Files.destination_foldl_join current plain

theorem steps_eq_iff :
    a.steps = b.steps ↔ a.pool.id = b.pool.id ∧ a.device.id = b.device.id ∧
      a.item.test.safeName = b.item.test.safeName ∧ a.item.failures = b.item.failures := by
  constructor
  · intro same
    simp only [steps, List.cons.injEq, true_and, and_true] at same
    obtain ⟨pool, device, test, failures⟩ := same
    exact ⟨congrArg PoolId.mk pool, congrArg DeviceId.mk device, test, attempt_inj failures⟩
  · rintro ⟨pool, device, test, failures⟩
    simp only [steps, pool, device, test, failures]

/-- **Attempts that differ have directories of their own.** The directories of two attempts of a run
are the same only where their pools, their devices, the names made of their tests and their failures
are, if the pools and the devices are named as directories may be and no link stands in the way; and
these names tell tests of one kind apart whose letters they keep. -/
theorem roots_apart (run : a.onDevice.inPool.run = b.onDevice.inPool.run) (named : a.Named)
    (named' : b.Named) {t : Files.Tree} (linkless : t.Linkless) {p q : Files.Place}
    (leads : t.resolve a.artifactRoot = .ok p) (leads' : t.resolve b.artifactRoot = .ok q) :
    (p = q ↔ a.pool.id = b.pool.id ∧ a.device.id = b.device.id ∧
      a.item.test.safeName = b.item.test.safeName ∧ a.item.failures = b.item.failures) ∧
    (a.item.test.kind = b.item.test.kind → a.item.test.Legible → b.item.test.Legible →
      a.item.test.Comparable b.item.test → p = q →
      a.pool.id = b.pool.id ∧ a.device.id = b.device.id ∧ a.item.test.key = b.item.test.key ∧
        a.item.failures = b.item.failures) := by
  have same_iff : p = q ↔ a.pool.id = b.pool.id ∧ a.device.id = b.device.id ∧
      a.item.test.safeName = b.item.test.safeName ∧ a.item.failures = b.item.failures := by
    rw [Files.Tree.eq_destination_of_resolve linkless leads,
      Files.Tree.eq_destination_of_resolve linkless leads', destination_artifactRoot named,
      destination_artifactRoot named', run, List.append_right_inj, steps_eq_iff]
  refine ⟨same_iff, fun kind legible legible' comparable same => ?_⟩
  obtain ⟨pool, device, test, failures⟩ := same_iff.1 same
  exact ⟨pool, device, TestCase.key_of_safeName legible legible' comparable kind test, failures⟩

/-- An attempt at a test of a method. -/
def attempting (method : String) : AttemptContext :=
  ⟨⟨⟨{ (default : RunContext) with outputDir := "out" }, ⟨⟨"omni"⟩, [.bare "a"]⟩⟩, .bare "a"⟩,
    .ofTest ⟨"p", "C", method, TestCase.defaultKind, [], []⟩⟩

/-- The directories of two tests. -/
def ofTwoTests : Files.Tree where
  nodes :=
    let device := ["out", "artifacts", "omni", "a"]
    [(["out"], .directory), (["out", "artifacts"], .directory),
      (["out", "artifacts", "omni"], .directory), (device, .directory),
      (device ++ ["p.C#m"], .directory), (device ++ ["p.C#n"], .directory)]
  current := []

/-- The directories of attempts at two tests on one device, which differ in the method only, are there
and are two. -/
theorem apart_of_methods :
    (attempting "m").onDevice.inPool.run = (attempting "n").onDevice.inPool.run ∧
      ∃ p q, ofTwoTests.resolve (attempting "m").artifactRoot = .ok p ∧
        ofTwoTests.resolve (attempting "n").artifactRoot = .ok q ∧ p ≠ q := by
  have run : (attempting "m").onDevice.inPool.run = (attempting "n").onDevice.inPool.run := rfl
  have linkless : ofTwoTests.Linkless := Files.Tree.linkless_of_nodes (by simp [ofTwoTests])
  have named (method : String) : (attempting method).Named :=
    ⟨show Files.IsName "omni" by decide, show Files.IsName "a" by decide⟩
  have leads : ofTwoTests.resolve (attempting "m").artifactRoot = .ok _ :=
    Files.Tree.resolve_of_isOpen linkless (by decide) (by decide) (by decide)
  have leads' : ofTwoTests.resolve (attempting "n").artifactRoot = .ok _ :=
    Files.Tree.resolve_of_isOpen linkless (by decide) (by decide) (by decide)
  refine ⟨run, _, _, leads, leads', fun same => ?_⟩
  obtain ⟨-, tests⟩ := roots_apart run (named "m") (named "n") linkless leads leads'
  obtain ⟨-, -, key, -⟩ := tests rfl ⟨by decide, by decide, by decide⟩
    ⟨by decide, by decide, by decide⟩ (.inl rfl) same
  exact absurd key (by decide)

/-- Attempts at two tests in one directory: of one method the blank is replaced by what is in the
other. -/
theorem shared_of_replaced :
    (attempting "a b").onDevice.inPool.run = (attempting "a_b").onDevice.inPool.run ∧
      (attempting "a b").item.test.key ≠ (attempting "a_b").item.test.key ∧
      (attempting "a b").artifactRoot = (attempting "a_b").artifactRoot :=
  ⟨rfl, by decide, by decide⟩

end AttemptContext

end TestFleet
