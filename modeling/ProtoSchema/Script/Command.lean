/-
Commands of shell scripts.

A script is one command, built from simple commands by sequencing, conditions and loops. The
reader follows the grammar from the top: lists of conditional pipelines, whose items are
compound or simple commands. A word such as `if` is special only where a command may start.
-/
import ProtoSchema.Script.Word

set_option autoImplicit false

namespace ProtoSchema

namespace Script

/-- A redirection of a stream. -/
structure Redirect where
  stream : Nat
  kind : RedirectKind
  target : Word
deriving DecidableEq, Repr

/-- **A command.** -/
inductive Command where
  | skip
  /-- Assignments, a command word with its arguments, and redirections. -/
  | simple (assignments : List (String × Word)) (words : List Word) (redirects : List Redirect)
  | sequence (first second : Command)
  /-- The second command is run if the first one succeeds. -/
  | both (first second : Command)
  /-- The second command is run if the first one fails. -/
  | either (first second : Command)
  | negated (body : Command)
  | pipe (first second : Command)
  | branch (condition success failure : Command)
  /-- A loop over words, or over the arguments of the script. -/
  | each (name : String) (items : Option (List Word)) (body : Command)
  /-- A loop as long as the condition succeeds, or as long as it fails, as `wanted` says. -/
  | repeated (wanted : Bool) (condition body : Command)
  /-- The body is run if the subject matches a pattern, otherwise the rest. -/
  | choose (subject : Word) (patterns : List Word) (body rest : Command)
  | redirected (body : Command) (redirects : List Redirect)
  /-- A command whose changes of bindings are undone after it. -/
  | subshell (body : Command)
deriving Repr

/-! ## Parts of simple commands -/

/-- The assignment that a word is, if it is one. -/
def assignment? : Word → Option (String × Word)
  | .text cs false :: rest =>
    let name := cs.takeWhile (· ≠ '=')
    match cs.dropWhile (· ≠ '=') with
    | [] => none
    | _ :: value =>
      match name with
      | [] => none
      | c :: more =>
        if startsName c && more.all isNameChar then
          some (String.ofList name, (if value.isEmpty then [] else [.text value false]) ++ rest)
        else none
  | _ => none

/-- The redirections at the front of tokens. -/
def redirects : List Token → List Redirect × List Token
  | .redirect stream kind :: .word target :: rest =>
    let (more, left) := redirects rest
    ({ stream, kind, target } :: more, left)
  | ts => ([], ts)

/-- The command with redirections around it. -/
def Command.withRedirects (c : Command) : List Redirect → Command
  | [] => c
  | rs => .redirected c rs

/-- A simple command at the front of tokens, with what was read of it so far. -/
def simpleTail (assignments : List (String × Word)) (words : List Word) (rs : List Redirect) :
    List Token → Command × List Token
  | .redirect stream kind :: .word target :: rest =>
    simpleTail assignments words (rs ++ [{ stream, kind, target }]) rest
  | .word w :: rest =>
    match words.isEmpty, assignment? w with
    | true, some a => simpleTail (assignments ++ [a]) words rs rest
    | _, _ => simpleTail assignments (words ++ [w]) rs rest
  | ts => (.simple assignments words rs, ts)

/-- The plain word at the front of tokens. -/
def frontWord? : List Token → Option String
  | .word w :: _ => w.plain?
  | _ => none

/-- The tokens after a special word that has to stand in front. -/
def expectWord (name : String) (ts : List Token) : Option (List Token) :=
  if frontWord? ts == some name then some (ts.drop 1) else none

/-- The tokens without line ends in front. -/
def skipNewlines : List Token → List Token
  | .newline :: rest => skipNewlines rest
  | ts => ts

/-- The tokens without line ends and semicolons in front. -/
def skipSeparators : List Token → List Token
  | .newline :: rest => skipSeparators rest
  | .operator ";" :: rest => skipSeparators rest
  | ts => ts

/-- Words that end a list of commands. -/
def closers : List String := ["then", "elif", "else", "fi", "do", "done", "esac", "\x7d"]

/-- Whether tokens start no command. -/
def endsList : List Token → Bool
  | [] => true
  | .operator ")" :: _ => true
  | .operator ";;" :: _ => true
  | ts =>
    match frontWord? ts with
    | some w => closers.contains w
    | none => false

/-- The words up to the end of a line or a semicolon. -/
def wordsUntilSeparator : List Token → List Word × List Token
  | .word w :: rest =>
    let (more, left) := wordsUntilSeparator rest
    (w :: more, left)
  | ts => ([], ts)

/-- The patterns of an arm of a choice, up to the closing bracket. -/
def patterns : List Token → Option (List Word × List Token)
  | .word w :: .operator ")" :: rest => some ([w], rest)
  | .word w :: .operator "|" :: rest => do
    let (more, left) ← patterns rest
    return (w :: more, left)
  | _ => none

/-! ## Commands -/

mutual

/-- A list of commands. -/
def commandList : Nat → List Token → Option (Command × List Token)
  | 0, _ => none
  | fuel + 1, ts =>
    let ts := skipSeparators ts
    if endsList ts then some (.skip, ts)
    else do
      let (first, rest) ← conditional fuel ts
      match rest with
      | .newline :: _ | .operator ";" :: _ => do
        let (more, left) ← commandList fuel rest
        match more with
        | .skip => return (first, left)
        | more => return (.sequence first more, left)
      | _ => if endsList rest then return (first, rest) else none

/-- Pipelines joined by conditions. -/
def conditional : Nat → List Token → Option (Command × List Token)
  | 0, _ => none
  | fuel + 1, ts => do
    let (first, rest) ← pipeline fuel ts
    conditionalTail fuel first rest

/-- The pipelines that follow one. -/
def conditionalTail : Nat → Command → List Token → Option (Command × List Token)
  | 0, _, _ => none
  | fuel + 1, first, .operator "&&" :: rest => do
    let (second, left) ← pipeline fuel (skipNewlines rest)
    conditionalTail fuel (.both first second) left
  | fuel + 1, first, .operator "||" :: rest => do
    let (second, left) ← pipeline fuel (skipNewlines rest)
    conditionalTail fuel (.either first second) left
  | _ + 1, first, ts => some (first, ts)

/-- Commands joined by pipes, possibly negated. -/
def pipeline : Nat → List Token → Option (Command × List Token)
  | 0, _ => none
  | fuel + 1, ts =>
    if frontWord? ts == some "!" then do
      let (body, rest) ← pipeline fuel (ts.drop 1)
      return (.negated body, rest)
    else do
      let (first, rest) ← command fuel ts
      match rest with
      | .operator "|" :: after => do
        let (second, left) ← pipeline fuel (skipNewlines after)
        return (.pipe first second, left)
      | _ => return (first, rest)

/-- A compound or simple command. -/
def command : Nat → List Token → Option (Command × List Token)
  | 0, _ => none
  | fuel + 1, ts =>
    match ts with
    | .operator "(" :: rest => do
      let (body, left) ← commandList fuel rest
      match left with
      | .operator ")" :: after =>
        let (rs, left) := redirects after
        return ((Command.subshell body).withRedirects rs, left)
      | _ => none
    | _ =>
      match frontWord? ts with
      | some "\x7b" => do
        let (body, left) ← commandList fuel (ts.drop 1)
        let after ← expectWord "\x7d" left
        let (rs, left) := redirects after
        return (body.withRedirects rs, left)
      | some "if" => do
        let (c, left) ← branches fuel (ts.drop 1)
        let (rs, left) := redirects left
        return (c.withRedirects rs, left)
      | some "for" =>
        match ts.drop 1 with
        | .word w :: rest => do
          let name ← w.plain?
          let (items, rest) :=
            if frontWord? (skipNewlines rest) == some "in" then
              let (ws, left) := wordsUntilSeparator ((skipNewlines rest).drop 1)
              (some ws, left)
            else (none, rest)
          let rest ← expectWord "do" (skipSeparators rest)
          let (body, left) ← commandList fuel rest
          let after ← expectWord "done" left
          let (rs, left) := redirects after
          return ((Command.each name items body).withRedirects rs, left)
        | _ => none
      | some "while" => loop fuel true (ts.drop 1)
      | some "until" => loop fuel false (ts.drop 1)
      | some "case" =>
        match ts.drop 1 with
        | .word subject :: rest => do
          let rest ← expectWord "in" (skipNewlines rest)
          let (c, left) ← arms fuel subject (skipNewlines rest)
          let (rs, left) := redirects left
          return (c.withRedirects rs, left)
        | _ => none
      | _ =>
        match ts with
        | .word _ :: _ | .redirect _ _ :: _ => some (simpleTail [] [] [] ts)
        | _ => none

/-- What follows the word `if`. -/
def branches : Nat → List Token → Option (Command × List Token)
  | 0, _ => none
  | fuel + 1, ts => do
    let (condition, left) ← commandList fuel ts
    let rest ← expectWord "then" left
    let (success, left) ← commandList fuel rest
    match frontWord? left with
    | some "fi" => return (.branch condition success .skip, left.drop 1)
    | some "elif" =>
      let (failure, left) ← branches fuel (left.drop 1)
      return (.branch condition success failure, left)
    | some "else" =>
      let (failure, left) ← commandList fuel (left.drop 1)
      let after ← expectWord "fi" left
      return (.branch condition success failure, after)
    | _ => none

/-- What follows the word `while` or `until`. -/
def loop : Nat → Bool → List Token → Option (Command × List Token)
  | 0, _, _ => none
  | fuel + 1, wanted, ts => do
    let (condition, left) ← commandList fuel ts
    let rest ← expectWord "do" left
    let (body, left) ← commandList fuel rest
    let after ← expectWord "done" left
    let (rs, left) := redirects after
    return ((Command.repeated wanted condition body).withRedirects rs, left)

/-- The arms of a choice. -/
def arms : Nat → Word → List Token → Option (Command × List Token)
  | 0, _, _ => none
  | fuel + 1, subject, ts =>
    if frontWord? ts == some "esac" then some (.skip, ts.drop 1)
    else do
      let ts := match ts with
        | .operator "(" :: rest => rest
        | ts => ts
      let (ps, rest) ← patterns ts
      let (body, left) ← commandList fuel rest
      let after := match left with
        | .operator ";;" :: after => skipNewlines after
        | left => left
      let (more, left) ← arms fuel subject after
      return (.choose subject ps body more, left)

end

/-- **The command that a script is.** Each token takes less than ten steps of the grammar. -/
def Command.ofText? (text : String) : Option Command := do
  let cs := text.toList
  let ts ← tokens (cs.length + 1) cs
  let (c, left) ← commandList (10 * ts.length + 10) ts
  if left.isEmpty then return c else none

end Script

end ProtoSchema
