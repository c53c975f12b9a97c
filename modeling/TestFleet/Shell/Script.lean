/-!
# Shell scripts

A script is read into commands. Words are lists of pieces that are expanded when a command runs.
All texts are bytewise: a character stands for an octet.
-/
namespace TestFleet.Shell

/-- How the value of a parameter is used. -/
inductive Treatment where
  | plain
  | length
  /-- Another word if the parameter is unset, or empty if `nonempty` is asked for. -/
  | orElse (nonempty : Bool)
  /-- The same, and the parameter is set to the word. -/
  | orAssign (nonempty : Bool)
  /-- The same, but the word is an error message. -/
  | orFail (nonempty : Bool)
  /-- Another word if the parameter is set, and not empty if `nonempty` is asked for. -/
  | andThen (nonempty : Bool)
  /-- The value without a match of a pattern at its start. -/
  | withoutStart (longest : Bool)
  /-- The value without a match of a pattern at its end. -/
  | withoutEnd (longest : Bool)
  /-- A treatment that no shell knows. -/
  | malformed
  deriving DecidableEq, Repr, Inhabited

/-- How a file is opened for a descriptor. -/
inductive Opening where
  | input
  | output
  | append
  /-- For output, whatever the shell's options say about files that exist. -/
  | replace
  | both
  deriving DecidableEq, Repr, Inhabited

mutual

/-- A part of a word. -/
inductive Piece where
  | literal (text : List Char) (quoted : Bool)
  /-- The home directory of a user, or of the one who runs the shell if no name is given. Where it
  stands inside what may be an assignment, it counts only if the word is one. -/
  | home (user : List Char) (inAssignment : Bool)
  | value (name : String) (how : Treatment) (word : List Piece) (quoted : Bool)
  | output (body : Command) (quoted : Bool)
  | arithmetic (expression : List Piece) (quoted : Bool)

/-- A redirection of a descriptor. -/
inductive Redirect where
  | file (descriptor : Nat) (opening : Opening) (target : List Piece)
  /-- To what another descriptor stands for. -/
  | copy (descriptor : Nat) (target : List Piece)
  /-- To a text in the script. -/
  | here (descriptor : Nat) (text : List Piece)

/-- A command. The line it starts in is kept where complaints name it. -/
inductive Command where
  | nothing
  | simple (line : Nat) (assignments : List (String × List Piece)) (words : List (List Piece))
      (redirects : List Redirect)
  | sequence (first second : Command)
  | both (first second : Command)
  | either (first second : Command)
  | inverted (body : Command)
  | pipeline (stages : List Command)
  | background (body : Command)
  | redirected (line : Nat) (body : Command) (redirects : List Redirect)
  | subshell (line : Nat) (body : Command) (redirects : List Redirect)
  | branch (condition yes : Command) (no : Option Command)
  | loop (wanted : Bool) (condition body : Command)
  | forEach (line : Nat) (name : String) (words : List (List Piece)) (body : Command)
  | choice (line : Nat) (word : List Piece) (cases : List (List (List Piece) × Command))
  | define (line : Nat) (name : String) (body : Command)

end

instance : Inhabited Piece := ⟨.literal [] false⟩
instance : Inhabited Command := ⟨.nothing⟩

/-- What is wrong with a script. -/
inductive Fault where
  | unterminatedQuote
  | missingBrace
  | missingParentheses
  | unterminatedBackquote
  | badLoopVariable
  | badFunctionName
  | badDescriptor
  | unexpected (token : String) (expecting : Option String)
  deriving DecidableEq, Repr, Inhabited

/-- The fault as a shell says it. -/
def Fault.message : Fault → String
  | .unterminatedQuote => "Unterminated quoted string"
  | .missingBrace => "Missing '\x7d'"
  | .missingParentheses => "Missing '))'"
  | .unterminatedBackquote => "EOF in backquote substitution"
  | .badLoopVariable => "Bad for loop variable"
  | .badFunctionName => "Bad function name"
  | .badDescriptor => "Bad fd number"
  | .unexpected token none => token ++ " unexpected"
  | .unexpected token (some other) => token ++ " unexpected (expecting " ++ other ++ ")"

end TestFleet.Shell
