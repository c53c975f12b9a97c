import TestFleet.Text.Blank
/-!
# Permissions

A mode holds nine bits of rights, three for each class of users, and three bits above them. It is
written in octal digits, as a text such as `rwxr-xr-x`, or as changes such as `u+x,go-w`.
-/
namespace TestFleet.Shell.Mode

/-- The rights that a class of users has, the owner as 0, the group as 1 and all others as 2. -/
def rights (mode : Nat) (user : Nat) : List Char :=
  let bits := mode / Nat.pow 8 (2 - user) % 8
  [(4, 'r'), (2, 'w'), (1, 'x')].filterMap fun (b, c) => if bits &&& b != 0 then some c else none

/-- The rights of all classes of users in nine characters. A bit above the rights shows in the
place of its class's last right. -/
def text (mode : Nat) : String :=
  let bit (b : Nat) (c : Char) : Char := if mode &&& b != 0 then c else '-'
  let last (above b : Nat) (both alone : Char) : Char :=
    if mode &&& above == 0 then bit b 'x' else if mode &&& b != 0 then both else alone
  String.ofList
    [bit 0o400 'r', bit 0o200 'w', last 0o4000 0o100 's' 'S', bit 0o040 'r', bit 0o020 'w',
      last 0o2000 0o010 's' 'S', bit 0o004 'r', bit 0o002 'w', last 0o1000 0o001 't' 'T']

/-- The users whose bits a change is about, as the bits themselves. With no class of users all are
meant, less what is masked. -/
def users (umask : Nat) (who : List Char) : Nat :=
  if who.isEmpty then 0o7777 - (umask &&& 0o777)
  else if who.contains 'a' then 0o7777
  else
    (if who.contains 'u' then 0o4700 else 0) ||| (if who.contains 'g' then 0o2070 else 0)
      ||| (if who.contains 'o' then 0o1007 else 0)

/-- The bits that a letter of a change stands for, seen from a mode. `X` counts as `x` for a
directory, and where someone may execute already. -/
def letterBits (directory : Bool) (mode : Nat) (letter : Char) : Nat :=
  let copied (n : Nat) : Nat := mode / Nat.pow 8 n % 8 * 0o111
  match letter with
  | 'r' => 0o444
  | 'w' => 0o222
  | 'x' => 0o111
  | 'X' => if directory || mode &&& 0o111 != 0 then 0o111 else 0
  | 's' => 0o6000
  | 't' => 0o1000
  | 'u' => copied 2
  | 'g' => copied 1
  | 'o' => copied 0
  | _ => 0

/-- A mode after operations `+`, `-` or `=`, each with letters. -/
def operated? (directory : Bool) (users all : Nat) : Nat → List Char → Nat → Option Nat
  | 0, _, _ => none
  | _ + 1, [], mode => some mode
  | fuel + 1, op :: rest, mode =>
    let letters := rest.takeWhile ("rwxXstugo".toList.contains ·)
    let bits := (letters.map (letterBits directory mode)).foldl (· ||| ·) 0 &&& users
    let without (taken : Nat) : Nat := mode - (mode &&& taken)
    let more (mode : Nat) : Option Nat :=
      operated? directory users all fuel (rest.drop letters.length) mode
    match op with
    | '+' => more (mode ||| bits)
    | '-' => more (without bits)
    | '=' => more (without all ||| bits)
    | _ => none

/-- A mode after one change of it: classes of users, and operations on their bits. -/
def changed? (directory : Bool) (umask : Nat) (change : List Char) (mode : Nat) : Option Nat :=
  let who := change.takeWhile ("ugoa".toList.contains ·)
  let meant := users umask who
  let all : Nat := if who.isEmpty then 0o7777 else meant
  match change.drop who.length with
  | [] => none
  | ops => operated? directory meant all (ops.length + 1) ops mode

/-- A mode after changes separated by commas. -/
def after? (directory : Bool) (umask : Nat) (changes : String) (mode : Nat) : Option Nat :=
  (Text.splitOnChar ',' changes).foldl
    (fun m change => m.bind (changed? directory umask change.toList)) (some mode)

/-- The number that octal digits write. -/
def ofOctal? (s : String) : Option Nat :=
  if !s.isEmpty && s.toList.all (fun c => '0' ≤ c && c ≤ '7') then
    some (s.toList.foldl (fun n c => n * 8 + (c.toNat - '0'.toNat)) 0)
  else none

/-- A mode that is given by octal digits or by changes of another mode. -/
def given? (directory : Bool) (umask : Nat) (spelling : String) (mode : Nat) : Option Nat :=
  match ofOctal? spelling with
  | some n => if n < 0o10000 then some n else none
  | none => after? directory umask spelling mode

end TestFleet.Shell.Mode
