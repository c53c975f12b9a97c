import TestFleet.Shell.Source
import TestFleet.Text.Blank
/-!
# Reading shell scripts

A script is read one line at a time: `Source.next?` gives the command that the next line holds, all
of which runs before the line after it is read. A command that is not complete at the end of its
line goes on in the lines below. The body of a text in the script is taken out of the lines below
at once.
-/
namespace TestFleet.Shell

/-- Characters that end a word that is not quoted. -/
def endsWord (c : Char) : Bool := " \t\n;&|<>()".toList.contains c

/-- Characters that names start with. -/
def startsName (c : Char) : Bool := c.isAlpha || c == '_'

/-- Characters that names go on with. -/
def continuesName (c : Char) : Bool := c.isAlphanum || c == '_'

/-- Whether a text is a name. -/
def isName (s : String) : Bool :=
  match s.toList with
  | [] => false
  | c :: rest => startsName c && rest.all continuesName

/-- Parameters that one character names, digits apart. -/
def isSpecialName (c : Char) : Bool := "@*#?-$!".toList.contains c

/-- The name and the value at the front of a text that is an assignment. -/
def assignmentAt? (cs : List Char) : Option (String × List Char) :=
  let name := String.ofList (cs.takeWhile continuesName)
  match cs.dropWhile continuesName with
  | '=' :: value => if isName name then some (name, value) else none
  | _ => none

/-- Commands of the shell that no function may be named for. -/
def specialNames : List String :=
  [":", ".", "break", "continue", "eval", "exec", "exit", "export", "local", "readonly", "return",
    "set", "shift", "times", "trap", "unset"]

/-- Where a piece of a word stands: it decides what ends the word and what is special in it. -/
inductive Standing where
  /-- In a word; a word that marks the end of a text in the script holds no expansions. -/
  | bare (expands : Bool)
  /-- Between double quotes, themselves between braces or not. -/
  | quotes (braced : Bool)
  /-- Between braces: where double quotes count from there on; whether the braces stand in a text
  of the script. -/
  | braces (quoted : Bool) (innerQuotes : Bool) (inText : Bool)
  /-- In a text of the script that ends at a line. -/
  | text (mark : List Char) (stripTabs : Bool)
  /-- In an arithmetic expansion, so many parentheses deep. -/
  | arithmetic (depth : Nat)
  deriving DecidableEq, Inhabited

namespace Standing

/-- Whether what stands there is quoted. -/
def quoted : Standing → Bool
  | .bare _ => false
  | .braces q _ _ => q
  | _ => true

/-- Whether a backslash takes away what is special in a character there, itself gone. -/
def escapes (c : Char) (s : Standing) : Bool :=
  !s.quoted || c == '\\' || c == '`' || c == '$'
    || (match s, c with
      | .text _ _, '"' => false
      | _, '"' => true
      | .quotes braced, '\x7d' => braced
      | .braces _ _ _, '\x7d' => true
      | _, _ => false)

/-- The fault of a script that ends there, if that is one. -/
def endFault? : Standing → Option Fault
  | .bare _ | .text _ _ => none
  | .quotes _ => some .unterminatedQuote
  | .braces true _ false => some .unterminatedQuote
  | .braces _ _ _ => some .missingBrace
  | .arithmetic _ => some .missingParentheses

end Standing

/-- Neighbouring literals joined. -/
def joinLiterals : List Piece → List Piece
  | [] => []
  | p :: rest =>
    match p, joinLiterals rest with
    | .literal a q, .literal b q' :: more =>
      if q == q' then .literal (a ++ b) q :: more else p :: .literal b q' :: more
    | _, joined => p :: joined

/-- The name behind a tilde at the front of a text, if the text or a slash ends it, or a colon
where those count; `last` says whether the text is the end of its word. -/
def homeName? (colons last : Bool) (cs : List Char) : Option (List Char × List Char) :=
  let ends (c : Char) : Bool := c == '/' || colons && c == ':'
  match cs with
  | '~' :: rest =>
    match rest.dropWhile (!ends ·) with
    | [] => if last then some (rest, []) else none
    | more => some (rest.takeWhile (!ends ·), more)
  | _ => none

/-- A text with the home directories after its colons, and after its first equals sign if
`equals`. -/
def homesIn (conditional equals last : Bool) : Nat → List Char → List Piece
  | 0, cs => [.literal cs false]
  | _ + 1, [] => []
  | fuel + 1, c :: rest =>
    if c == ':' && !equals || c == '=' && equals then
      match homeName? true last rest with
      | some (user, more) =>
        .literal [c] false :: .home user conditional :: homesIn conditional false last fuel more
      | none => .literal [c] false :: homesIn conditional false last fuel rest
    else .literal [c] false :: homesIn conditional equals last fuel rest

/-- The pieces between double quotes, which make a word even if they are empty; the arguments of the
shell alone need not. -/
def inQuotes (inner : List Piece) : List Piece :=
  match inner with
  | [.value "@" .plain _ true] => inner
  | _ => .literal [] true :: inner

/-- Text pieces of an assignment's value after its first piece, with the home directories after
their colons. -/
def homesAfter (conditional : Bool) : List Piece → List Piece
  | [] => []
  | .literal cs false :: rest =>
    homesIn conditional false rest.isEmpty (cs.length + 1) cs ++ homesAfter conditional rest
  | p :: rest => p :: homesAfter conditional rest

/-- The value of an assignment, with its home directories. -/
def valueHomes (conditional : Bool) (pieces : List Piece) : List Piece :=
  joinLiterals <|
    match pieces with
    | .literal cs false :: rest =>
      match homeName? true rest.isEmpty cs with
      | some (user, more) =>
        .home user conditional :: homesAfter conditional (.literal more false :: rest)
      | none => homesAfter conditional pieces
    | _ => homesAfter conditional pieces

/-- A word, its tilde taken for a home directory. In what may be an assignment the value may hold
more of them. -/
def wordHomes (pieces : List Piece) : List Piece :=
  match pieces with
  | .literal cs false :: rest =>
    match homeName? false rest.isEmpty cs with
    | some (user, more) =>
      .home user false :: (if more.isEmpty then rest else .literal more false :: rest)
    | none =>
      match assignmentAt? cs with
      | some (name, value) =>
        .literal (name.toList ++ ['=']) false
          :: valueHomes true (if value.isEmpty then rest else .literal value false :: rest)
      | none => pieces
  | _ => pieces

/-- The text of a word with its quotes taken away. -/
def unquoted (pieces : List Piece) : List Char :=
  pieces.flatMap fun p => match p with | .literal t _ => t | _ => []

/-- The content up to an unescaped backquote, with its escapes taken away, and the rest. -/
def backquoted (inQuotes : Bool) : List Char → List Char → Option (List Char × List Char)
  | acc, '`' :: rest => some (acc.reverse, rest)
  | acc, '\\' :: '\n' :: rest => backquoted inQuotes acc rest
  | acc, '\\' :: c :: rest =>
    if c == '`' || c == '\\' || c == '$' || inQuotes && c == '"' then
      backquoted inQuotes (c :: acc) rest
    else backquoted inQuotes (c :: '\\' :: acc) rest
  | acc, c :: rest => backquoted inQuotes (c :: acc) rest
  | _, [] => none

/-- How the treatment of a parameter is written. -/
def treatment? (colon : Bool) (c : Char) : Option Treatment :=
  match c with
  | '\x7d' => some .plain
  | '-' => some (.orElse colon)
  | '+' => some (.andThen colon)
  | '?' => some (.orFail colon)
  | '=' => some (.orAssign colon)
  | _ => none

/-- What a token has to be taken for. -/
structure Reader where
  newlines : Bool := false
  keywords : Bool := false
  aliases : Bool := false

namespace Reading

/-- All characters that satisfy a test, used up. -/
def whileTrue (p : Char → Bool) : Nat → Reading (List Char)
  | 0 => pure []
  | fuel + 1 => do
    match ← peek with
    | some c =>
      if p c then
        drop
        pure (c :: (← whileTrue p fuel))
      else pure []
    | none => pure []

/-- How many characters are left. -/
def left : Reading Nat := do pure (← get).chars.length

/-- The text up to a closing quote. -/
def singleQuoted : Nat → Reading (List Char)
  | 0 => fault .unterminatedQuote
  | fuel + 1 => do
    match ← peekRaw with
    | none => fault .unterminatedQuote
    | some '\'' => do
      drop
      pure []
    | some c => do
      drop
      pure (c :: (← singleQuoted fuel))

/-- Whether the line that comes next ends a text in the script; it is used up if so, and so are the
tabs in front of any line if those are stripped. -/
def endsText (mark : List Char) (stripTabs : Bool) : Reading Bool := fun s =>
  let chars := if stripTabs then s.chars.dropWhile (· == '\t') else s.chars
  let line := chars.takeWhile (· != '\n')
  if line == mark && (!line.isEmpty || !chars.isEmpty) then
    .ok (true, { s with chars := chars.drop line.length }.behind)
  else .ok (false, { s with chars })

/-- An operator of redirection, its first character used up. -/
def redirection (first : Char) (descriptor : Option Nat) : Reading Token := do
  if first == '>' then
    let fd := descriptor.getD 1
    if ← sees '>' then pure (.redirect fd (.file .append))
    else if ← sees '|' then pure (.redirect fd (.file .replace))
    else if ← sees '&' then pure (.redirect fd .copy)
    else pure (.redirect fd (.file .output))
  else
    let fd := descriptor.getD 0
    if ← sees '<' then
      if ← sees '-' then pure (.redirect fd (.here true)) else pure (.redirect fd (.here false))
    else if ← sees '&' then pure (.redirect fd .copy)
    else if ← sees '>' then pure (.redirect fd (.file .both))
    else pure (.redirect fd (.file .input))

/-- The line number. -/
def line : Reading Nat := do pure (← get).line

mutual

/-- The pieces of a word up to what ends it where it stands; and whether any of it is quoted. -/
def pieces : Nat → Standing → Reading (List Piece × Bool)
  | 0, _ => fault .unterminatedQuote
  | fuel + 1, standing => do
    let q := standing.quoted
    let more (front : List Piece) (quoting : Bool) (next : Standing) :
        Reading (List Piece × Bool) := do
      let (rest, quoted) ← pieces fuel next
      pure (front ++ rest, quoting || quoted)
    let plain (c : Char) (next : Standing) : Reading (List Piece × Bool) := do
      drop
      more [.literal [c] q] false next
    match ← peek with
    | none =>
      match standing.endFault? with
      | some f => fault f
      | none => pure ([], false)
    | some '\\' =>
      drop
      match ← peekRaw with
      | none => more [.literal ['\\'] true] true standing
      | some c =>
        drop
        more [.literal (if standing.escapes c then [c] else ['\\', c]) true] true standing
    | some '$' =>
      if standing == .bare false then plain '$' standing
      else
        drop
        let p ← dollar fuel standing
        more [p] false standing
    | some '`' =>
      if standing == .bare false then plain '`' standing
      else
        drop
        let s ← get
        match backquoted q [] s.chars with
        | none =>
          set { s with line := s.line + s.chars.count '\n' }
          fault .unterminatedBackquote
        | some (inner, rest) =>
          let outer := { s with
            chars := rest
            line := s.line + s.chars.count '\n' - rest.count '\n' }
          set { s with chars := inner, line := 1, ahead := 0, pushed := none }
          let body ← list fuel false true none
          set outer
          more [.output (body.getD .nothing) q] false standing
    | some c =>
      match standing with
      | .bare _ =>
        if c == '\'' then
          drop
          let inner ← singleQuoted (← left).succ
          more [.literal inner true] true standing
        else if c == '"' then
          drop
          let (inner, _) ← pieces fuel (.quotes false)
          more (inQuotes inner) true standing
        else if endsWord c then pure ([], false)
        else plain c standing
      | .quotes _ =>
        if c == '"' then
          drop
          pure ([], true)
        else plain c standing
      | .braces false _ inText =>
        if c == '\'' then
          drop
          let inner ← singleQuoted (← left).succ
          more [.literal inner true] true standing
        else if c == '"' then
          drop
          let (inner, _) ← pieces fuel (.quotes true)
          more (inQuotes inner) true standing
        else if c == '\x7d' then
          drop
          pure ([], false)
        else plain c (.braces false false inText)
      | .braces true innerQuotes inText =>
        if c == '"' then
          drop
          more [] true (.braces true (!innerQuotes) inText)
        else if c == '\x7d' && !innerQuotes then
          drop
          pure ([], false)
        else plain c standing
      | .text mark stripTabs =>
        drop
        if c == '\n' then
          if ← endsText mark stripTabs then pure ([.literal ['\n'] true], false)
          else more [.literal ['\n'] true] false standing
        else more [.literal [c] true] false standing
      | .arithmetic depth =>
        drop
        if c == '(' then more [.literal [c] true] false (.arithmetic (depth + 1))
        else if c == ')' then
          if 0 < depth then more [.literal [c] true] false (.arithmetic (depth - 1))
          else if ← sees ')' then pure ([], false)
          else more [.literal [c] true] false standing
        else more [.literal [c] true] false standing

/-- What a dollar sign stands for that has been used up. -/
def dollar : Nat → Standing → Reading Piece
  | 0, _ => fault .unterminatedQuote
  | fuel + 1, standing => do
    let q := standing.quoted
    match ← peek with
    | none => pure (.literal ['$'] q)
    | some '(' =>
      drop
      if ← sees '(' then
        let (inner, _) ← pieces fuel (.arithmetic 0)
        pure (.arithmetic (joinLiterals inner) q)
      else
        let pushed := (← get).pushed
        modify fun s => { s with pushed := none }
        let body ← list fuel false true none
        match ← token fuel {} with
        | .closing => pure ()
        | t => unexpected t (some "\")\"")
        modify fun s => { s with pushed }
        pure (.output (body.getD .nothing) q)
    | some '\x7b' =>
      drop
      braced fuel standing
    | some c =>
      if startsName c then
        let name ← whileTrue continuesName (← left).succ
        pure (.value (String.ofList name) .plain [] q)
      else if isSpecialName c || c.isDigit then
        drop
        pure (.value (String.singleton c) .plain [] q)
      else pure (.literal ['$'] q)

/-- A parameter between braces, the first brace used up. -/
def braced : Nat → Standing → Reading Piece
  | 0, _ => fault .unterminatedQuote
  | fuel + 1, standing => do
    let q := standing.quoted
    let inText : Bool :=
      match standing with
      | .text _ _ => true
      | .braces _ _ t => t
      | _ => false
    let same : Standing := .braces q false inText
    let finish (name : String) (how : Treatment) (inner : Standing) : Reading Piece := do
      let (word, _) ← pieces fuel inner
      let word := if inner.quoted then word else wordHomes (joinLiterals word)
      pure (.value name how (joinLiterals word) q)
    let malformed : Reading Piece := finish "" .malformed same
    let nameHere : Reading String := do
      match ← peek with
      | some c =>
        if startsName c then pure (String.ofList (← whileTrue continuesName (← left).succ))
        else pure (String.ofList (← whileTrue Char.isDigit (← left).succ))
      | none => pure ""
    let treated (name : String) : Reading Piece := do
      match ← peek with
      | none => malformed
      | some ':' =>
        drop
        match ← peek with
        | none => malformed
        | some c =>
          match treatment? true c with
          | some how =>
            drop
            finish name how same
          | none => malformed
      | some '%' =>
        drop
        let longest ← sees '%'
        finish name (.withoutEnd longest) (.braces false false inText)
      | some '#' =>
        drop
        let longest ← sees '#'
        finish name (.withoutStart longest) (.braces false false inText)
      | some '\x7d' =>
        drop
        pure (.value name .plain [] q)
      | some c =>
        match treatment? false c with
        | some how =>
          drop
          finish name how same
        | none =>
          modify fun s => { s with chars := s.chars.drop 1 }
          malformed
    let length (name : String) : Reading Piece := do
      if ← sees '\x7d' then pure (.value name .length [] q) else malformed
    match ← peek with
    | none => malformed
    | some c =>
      if continuesName c then treated (← nameHere)
      else if c == '#' then
        drop
        match ← peek with
        | none => treated "#"
        | some d =>
          if continuesName d then length (← nameHere)
          else
            let before ← get
            drop
            if d == '\x7d' || (← peek) != some '\x7d' then
              set before
              treated "#"
            else if isSpecialName d then length (String.singleton d)
            else malformed
      else if isSpecialName c then
        drop
        treated (String.singleton c)
      else
        if c != '\x7d' then drop
        malformed

/-- The next token of the source itself. -/
def lex : Nat → Reading Token
  | 0 => fault .unterminatedQuote
  | fuel + 1 => do
    match ← peek with
    | none => pure .endOfFile
    | some c =>
      if c == ' ' || c == '\t' then
        drop
        lex fuel
      else if c == '#' then
        modify fun s => { s with chars := s.chars.dropWhile (· != '\n') }
        lex fuel
      else if c == '\n' then
        drop
        pure .newline
      else if c == '&' then
        drop
        if ← sees '&' then pure .both else pure .ampersand
      else if c == '|' then
        drop
        if ← sees '|' then pure .either else pure .pipe
      else if c == ';' then
        drop
        if ← sees ';' then pure .endOfCase else pure .semicolon
      else if c == '(' then
        drop
        pure .opening
      else if c == ')' then
        drop
        pure .closing
      else if c == '<' || c == '>' then
        drop
        redirection c none
      else
        let w ← word fuel true
        match w.plain?, ← peek with
        | some text, some c =>
          match text.toList with
          | [d] =>
            if d.isDigit && (c == '<' || c == '>') then
              drop
              redirection c (some (d.toNat - '0'.toNat))
            else pure (.word w)
          | _ => pure (.word w)
        | _, _ => pure (.word w)

/-- A word. -/
def word : Nat → Bool → Reading Word
  | 0, _ => fault .unterminatedQuote
  | fuel + 1, expands => do
    let (ps, quoted) ← pieces fuel (.bare expands)
    pure ⟨joinLiterals ps, quoted⟩

/-- The next token, taken for what it may be here. -/
def token : Nat → Reader → Reading Token
  | 0, _ => fault .unterminatedQuote
  | fuel + 1, reader => do
    let t ←
      match (← get).pushed with
      | some t => do
        modify fun s => { s with pushed := none }
        pure t
      | none => lex fuel
    if reader.newlines && t.isNewline then token fuel reader
    else
      match t with
      | .word w =>
        match w.plain? with
        | none => pure t
        | some text =>
          if reader.keywords && keywords.contains text then pure (.keyword text)
          else
            let s ← get
            let before := s.chars.length + text.length
            let follows := s.blankEnds.any (before ≤ ·)
            if follows then set { s with blankEnds := s.blankEnds.filter fun n => !(before ≤ n) }
            if reader.aliases || follows then
              match s.alias? text with
              | some body => do
                modify (·.withAlias text body)
                token fuel reader
              | none => pure t
            else pure t
      | t => pure t

/-- Commands: one line of them if `toLine`, or else all up to a token that can end them, of which
there may be none if `mayEnd`. -/
def list : Nat → Bool → Bool → Option Command → Reading (Option Command)
  | 0, _, _, _ => fault .unterminatedQuote
  | fuel + 1, toLine, mayEnd, before => do
    let t ← token fuel { newlines := !toLine, keywords := true, aliases := true }
    match t with
    | .newline => pure before
    | .endOfFile =>
      push t
      pure before
    | _ =>
      push t
      if !toLine && mayEnd && t.endsList then pure before
      else
        let c ← chain fuel
        let t ← token fuel {}
        let joined (c : Command) : Option Command :=
          match before with
          | some b => some (.sequence b c)
          | none => some c
        match t with
        | .ampersand => list fuel toLine true (joined (.background c))
        | .semicolon => list fuel toLine true (joined c)
        | .newline | .endOfFile =>
          push t
          list fuel toLine true (joined c)
        | t =>
          if toLine then unexpected t none
          push t
          pure (joined c)

/-- Pipelines joined by `&&` and `||`. -/
def chain : Nat → Reading Command
  | 0 => fault .unterminatedQuote
  | fuel + 1 => do
    let first ← pipeline fuel
    links fuel first

/-- What follows a pipeline with `&&` and `||`. -/
def links : Nat → Command → Reading Command
  | 0, _ => fault .unterminatedQuote
  | fuel + 1, before => do
    let next : Reading Command := do
      let t ← token fuel { newlines := true, keywords := true, aliases := true }
      push t
      pipeline fuel
    match ← token fuel {} with
    | .both => do links fuel (.both before (← next))
    | .either => do links fuel (.either before (← next))
    | t =>
      push t
      pure before

/-- Commands joined by pipes, after a `!` or not. -/
def pipeline : Nat → Reading Command
  | 0 => fault .unterminatedQuote
  | fuel + 1 => do
    let t ← token fuel {}
    let inverted : Bool := match t with | .keyword "!" => true | _ => false
    if inverted then push (← token fuel { keywords := true, aliases := true }) else push t
    let first ← command fuel
    let rest ← stages fuel
    let body : Command := if rest.isEmpty then first else .pipeline (first :: rest)
    pure (if inverted then .inverted body else body)

/-- The commands behind pipes. -/
def stages : Nat → Reading (List Command)
  | 0 => fault .unterminatedQuote
  | fuel + 1 => do
    match ← token fuel {} with
    | .pipe =>
      push (← token fuel { newlines := true, keywords := true, aliases := true })
      let c ← command fuel
      pure (c :: (← stages fuel))
    | t =>
      push t
      pure []

/-- A keyword that must come next. -/
def expect : Nat → String → Reading Unit
  | 0, _ => fault .unterminatedQuote
  | fuel + 1, name => do
    match ← token fuel {} with
    | .keyword k =>
      if k == name then pure () else unexpected (.keyword k) (some ("\"" ++ name ++ "\""))
    | t => unexpected t (some ("\"" ++ name ++ "\""))

/-- Commands inside a command. -/
def body : Nat → Reading Command
  | 0 => fault .unterminatedQuote
  | fuel + 1 => do pure ((← list fuel false false none).getD .nothing)

/-- One command. -/
def command : Nat → Reading Command
  | 0 => fault .unterminatedQuote
  | fuel + 1 => do
    let start ← line
    match ← token fuel {} with
    | .keyword "if" => do
      let c ← branch fuel
      redirected fuel start c
    | .keyword "while" => loop fuel start true
    | .keyword "until" => loop fuel start false
    | .keyword "for" => do
      let name ←
        match ← token fuel {} with
        | .word w =>
          match w.plain? with
          | some name => if isName name then pure name else fault .badLoopVariable
          | none => fault .badLoopVariable
        | _ => fault .badLoopVariable
      let words ←
        match ← token fuel { newlines := true, keywords := true, aliases := true } with
        | .keyword "in" => loopWords fuel
        | .semicolon => pure [[.value "@" .plain [] true]]
        | t => do
          push t
          pure [[.value "@" .plain [] true]]
      push (← token fuel { newlines := true, keywords := true, aliases := true })
      expect fuel "do"
      let inner ← body fuel
      expect fuel "done"
      redirected fuel start (.forEach start name words inner)
    | .keyword "case" => do
      let subject ←
        match ← token fuel {} with
        | .word w => pure (wordHomes w.pieces)
        | t => unexpected t (some "word")
      push (← token fuel { newlines := true, keywords := true, aliases := true })
      expect fuel "in"
      let cases ← choices fuel
      redirected fuel start (.choice start subject cases)
    | .opening => do
      let inner ← body fuel
      match ← token fuel {} with
      | .closing => pure ()
      | t => unexpected t (some "\")\"")
      push (← token fuel { keywords := true, aliases := true })
      pure (.subshell start inner (← redirects fuel))
    | .keyword "\x7b" => do
      let inner ← body fuel
      expect fuel "\x7d"
      redirected fuel start inner
    | .word w => do
      push (.word w)
      simple fuel (← line) true [] [] []
    | .redirect fd kind => do
      push (.redirect fd kind)
      simple fuel (← line) true [] [] []
    | t => unexpected t none

/-- What follows the word that starts a branch. -/
def branch : Nat → Reading Command
  | 0 => fault .unterminatedQuote
  | fuel + 1 => do
    let condition ← body fuel
    expect fuel "then"
    let yes ← body fuel
    match ← token fuel {} with
    | .keyword "elif" => do
      let no ← branch fuel
      pure (.branch condition yes (some no))
    | .keyword "else" => do
      let no ← body fuel
      expect fuel "fi"
      pure (.branch condition yes (some no))
    | t =>
      push t
      expect fuel "fi"
      pure (.branch condition yes none)

/-- A loop, its first word used up. -/
def loop : Nat → Nat → Bool → Reading Command
  | 0, _, _ => fault .unterminatedQuote
  | fuel + 1, start, wanted => do
    let condition ← body fuel
    expect fuel "do"
    let inner ← body fuel
    expect fuel "done"
    redirected fuel start (.loop wanted condition inner)

/-- The words that a loop runs over. -/
def loopWords : Nat → Reading (List (List Piece))
  | 0 => fault .unterminatedQuote
  | fuel + 1 => do
    match ← token fuel {} with
    | .word w => do pure (wordHomes w.pieces :: (← loopWords fuel))
    | .newline | .semicolon => pure []
    | t => unexpected t none

/-- The cases of a choice. -/
def choices : Nat → Reading (List (List (List Piece) × Command))
  | 0 => fault .unterminatedQuote
  | fuel + 1 => do
    match ← token fuel { newlines := true, keywords := true } with
    | .keyword "esac" => pure []
    | t => do
      let first ← match t with | .opening => token fuel {} | t => pure t
      let ps ← patterns fuel first
      let inner ← list fuel false true none
      let one := (ps, inner.getD .nothing)
      match ← token fuel { newlines := true, keywords := true } with
      | .keyword "esac" => pure [one]
      | .endOfCase => do pure (one :: (← choices fuel))
      | t => unexpected t (some "\";;\"")

/-- The patterns of a case, the first of which has been read. -/
def patterns : Nat → Token → Reading (List (List Piece))
  | 0, _ => fault .unterminatedQuote
  | fuel + 1, first => do
    let pattern : List Piece :=
      match first with
      | .word w => wordHomes w.pieces
      | .keyword name => [.literal name.toList false]
      | _ => []
    match ← token fuel {} with
    | .pipe => do pure (pattern :: (← patterns fuel (← token fuel {})))
    | .closing => pure [pattern]
    | t => unexpected t (some "\")\"")

/-- A compound command with the redirections behind it. -/
def redirected : Nat → Nat → Command → Reading Command
  | 0, _, _ => fault .unterminatedQuote
  | fuel + 1, start, c => do
    push (← token fuel { keywords := true, aliases := true })
    let rs ← redirects fuel
    pure (if rs.isEmpty then c else .redirected start c rs)

/-- All redirections that come next. -/
def redirects : Nat → Reading (List Redirect)
  | 0 => fault .unterminatedQuote
  | fuel + 1 => do
    match ← token fuel {} with
    | .redirect fd kind => do
      let r ← redirect fuel fd kind
      pure (r :: (← redirects fuel))
    | t =>
      push t
      pure []

/-- The target of a redirection. -/
def redirect : Nat → Nat → Redirection → Reading Redirect
  | 0, _, _ => fault .unterminatedQuote
  | fuel + 1, fd, kind => do
    match kind with
    | .here stripTabs => do
      let mark ← delimiter fuel
      let s ← get
      let (rest, below) := Source.lineEnd s.chars
      let start := { s with chars := below, line := s.line + 1 + s.ahead, ahead := 0 }
      let text := unquoted mark.pieces
      let (inner, after) ←
        match (if mark.quoted then quotedText text stripTabs (below.length + 1)
          else expandedText fuel text stripTabs).run start with
        | .ok r => pure r
        | .error e => throw e
      let more := s.chars.length != rest.length
      set { s with
        chars := if more then rest ++ '\n' :: after.chars else rest
        ahead := s.ahead + (after.line - start.line) }
      pure (.here fd inner)
    | kind =>
      let w ←
        match ← token fuel {} with
        | .word w => pure w
        | t => unexpected t none
      match kind with
      | .file opening => pure (.file fd opening (wordHomes w.pieces))
      | _ => pure (.copy fd (wordHomes w.pieces))

/-- The word that marks the end of a text. -/
def delimiter : Nat → Reading Word
  | 0 => fault .unterminatedQuote
  | fuel + 1 => do
    let _ ← whileTrue (fun c => c == ' ' || c == '\t') (← left).succ
    match ← peek with
    | some c =>
      if endsWord c || c == '#' then unexpected (← lex fuel) none else word fuel false
    | none => unexpected .endOfFile none

/-- The lines of a text that is taken as it stands. -/
def quotedText (mark : List Char) (stripTabs : Bool) : Nat → Reading (List Piece)
  | 0 => pure []
  | fuel + 1 => do
    if ← endsText mark stripTabs then pure []
    else
      let s ← get
      let text := s.chars.takeWhile (· != '\n')
      if text.length == s.chars.length then
        set { s with chars := [] }
        pure [.literal text true]
      else
        set ({ s with chars := s.chars.drop text.length }.behind)
        let rest ← quotedText mark stripTabs fuel
        pure (.literal (text ++ ['\n']) true :: rest)

/-- The pieces of a text in which expansions count. -/
def expandedText : Nat → List Char → Bool → Reading (List Piece)
  | 0, _, _ => fault .unterminatedQuote
  | fuel + 1, mark, stripTabs => do
    if ← endsText mark stripTabs then pure []
    else
      let (ps, _) ← pieces fuel (.text mark stripTabs)
      pure (joinLiterals ps)

/-- A simple command, or the definition of a function; `front` as long as no word has been read
that is not an assignment. -/
def simple : Nat → Nat → Bool → List (String × List Piece) → List (List Piece) → List Redirect →
    Reading Command
  | 0, _, _, _, _, _ => fault .unterminatedQuote
  | fuel + 1, start, front, assignments, words, rs => do
    match ← token fuel { aliases := front } with
    | .word w =>
      let assignment : Option (String × List Piece) :=
        match front, w.pieces with
        | true, .literal cs false :: rest =>
          (assignmentAt? cs).map fun (name, value) =>
            (name, valueHomes false (if value.isEmpty then rest else .literal value false :: rest))
        | _, _ => none
      match assignment with
      | some a => simple fuel start true (assignments ++ [a]) words rs
      | none => simple fuel start false assignments (words ++ [w.pieces]) rs
    | .redirect fd kind =>
      let r ← redirect fuel fd kind
      simple fuel start front assignments words (rs ++ [r])
    | .opening =>
      match assignments, words, rs with
      | [], [name], [] => do
        match ← token fuel {} with
        | .closing => pure ()
        | t => unexpected t (some "\")\"")
        let text := (Word.plain? ⟨name, false⟩).getD ""
        if !isName text || specialNames.contains text then fault .badFunctionName
        let at_ ← line
        push (← token fuel { newlines := true, keywords := true, aliases := true })
        let inner ← command fuel
        pure (.define at_ text inner)
      | _, _, _ => do
        push .opening
        pure (.simple start assignments (words.map wordHomes) rs)
    | t =>
      push t
      pure (.simple start assignments (words.map wordHomes) rs)

end

end Reading

namespace Source

/-- A measure of fuel that is enough for the rest of a source. -/
def fuel (s : Source) : Nat :=
  let aliases := s.aliases.foldl (fun n (_, text) => n + text.length) 0
  16 * (s.chars.length + aliases) + 256

/-- The command that the next line holds, and the source behind it; nothing is left when the script
is over. -/
def next? (s : Source) : Except (Fault × Nat) (Option Command × Source) :=
  (Reading.list s.fuel true true none).run s

/-- Whether nothing is left of a source. -/
def isOver (s : Source) : Bool :=
  match s.pushed with
  | some .endOfFile => true
  | _ => false

end Source

end TestFleet.Shell
