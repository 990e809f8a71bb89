import Lush.Basic

/-!
# The command line `git_command_in_dir` hands to `/bin/sh -c`

`git_command_in_dir` formats `git -C '<dir>' <args> 2>/dev/null` into 1024
bytes and runs it with `/bin/sh -c`.  What git receives is what POSIX sh makes
of that line.  `shLex` follows the token recognition of the POSIX shell
language for the part of it such a line needs: blanks, single quotes, double
quotes, backslash, and the redirection operators `<`, `>`, `>>` with an
`IO_NUMBER` before them.  Any byte that would start something else (an
expansion, a pattern, a comment, a control operator) makes it return `none`, so
that every result it gives is the shell's.

Main result:

* **`gitCommandInDir_resplits_dir`**: a `'` in `dir` closes the quote, and the
  shell splits the directory `a' 'b` into the two arguments `a` and `b`.
-/

namespace Lush

/-- `snprintf(cmd, sizeof(cmd), "git -C '%s' %s 2>/dev/null", dir, args)` into
`char cmd[1024]`: the command, or `none` when it does not fit. -/
def gitCommandInDirCmd (dir args : List UInt8) : Option (List UInt8) :=
  let cmd := lit "git -C '" ++ cStr dir ++ lit "' " ++ cStr args ++ lit " 2>/dev/null"
  if 1024 ≤ cmd.length then none else some cmd

/-- A token of the shell language. -/
inductive ShToken
  | word (bytes : List UInt8)
  | ioNumber (digits : List UInt8)
  | op (bytes : List UInt8)
deriving DecidableEq, Repr

/-- Where the lexer is: outside quotes, inside single or double quotes, after an
unquoted backslash, after `>` or `<`, or stopped on a line this model leaves out. -/
inductive LexMode
  | plain
  | single
  | double
  | escape
  | afterGt
  | afterLt
  | failed
deriving DecidableEq, Repr

/-- The word being read, after quote removal, and whether it is so far made of
unquoted digits only (an `IO_NUMBER` if a `<` or `>` ends it). -/
structure WordAcc where
  bytes : List UInt8
  digits : Bool
deriving DecidableEq, Repr

/-- The lexer's state: its mode, the word being read, the tokens so far. -/
structure LexState where
  mode : LexMode
  word : Option WordAcc
  tokens : List ShToken
deriving DecidableEq, Repr

/-- The token the word read so far makes, if there is one. -/
def flushWord : Option WordAcc → List ShToken
  | none => []
  | some w => [.word w.bytes]

/-- The word read so far, when a redirection operator delimits it. -/
def flushBeforeRedirect : Option WordAcc → List ShToken
  | some ⟨ds, true⟩ => [.ioNumber ds]
  | w => flushWord w

/-- Append an unquoted byte to the word. -/
def addPlain (w : Option WordAcc) (c : UInt8) : WordAcc :=
  match w with
  | none => ⟨[c], isDigit c⟩
  | some w => ⟨w.bytes ++ [c], w.digits && isDigit c⟩

/-- Append a quoted byte to the word. -/
def addQuoted (w : Option WordAcc) (c : UInt8) : WordAcc :=
  ⟨((w.map WordAcc.bytes).getD []) ++ [c], false⟩

/-- A quote starts or continues the word: an empty quoted part still makes a word. -/
def openQuote (w : Option WordAcc) : WordAcc :=
  ⟨(w.map WordAcc.bytes).getD [], false⟩

/-- The bytes that, unquoted, would start what this model leaves out: control
operators, newline, expansions and patterns. -/
def shUnsupported : List UInt8 := lit "|&;()\n$`*?["

/-- One unquoted byte. -/
def plainByte (st : LexState) (c : UInt8) : LexState :=
  if c = 0x20 ∨ c = 0x09 then { st with word := none, tokens := st.tokens ++ flushWord st.word }
  else if c = 0x27 then { st with mode := .single, word := some (openQuote st.word) }
  else if c = 0x22 then { st with mode := .double, word := some (openQuote st.word) }
  else if c = 0x5C then { st with mode := .escape }
  else if c = 0x3E then { mode := .afterGt, word := none, tokens := st.tokens ++ flushBeforeRedirect st.word }
  else if c = 0x3C then { mode := .afterLt, word := none, tokens := st.tokens ++ flushBeforeRedirect st.word }
  else if c ∈ shUnsupported ∨ ((c = 0x23 ∨ c = 0x7E) ∧ st.word = none) then { st with mode := .failed }
  else { st with word := some (addPlain st.word c) }

/-- POSIX sh token recognition, one byte at a time. -/
def lexStep (st : LexState) (c : UInt8) : LexState :=
  match st.mode with
  | .plain => plainByte st c
  | .single =>
    if c = 0x27 then { st with mode := .plain, word := some (openQuote st.word) }
    else { st with word := some (addQuoted st.word c) }
  | .double =>
    if c = 0x22 then { st with mode := .plain, word := some (openQuote st.word) }
    else if c = 0x24 ∨ c = 0x60 ∨ c = 0x5C then { st with mode := .failed }
    else { st with word := some (addQuoted st.word c) }
  | .escape =>
    if c = 0x0A then { st with mode := .failed }
    else { st with mode := .plain, word := some (addQuoted st.word c) }
  | .afterGt =>
    if c = 0x3E then { st with mode := .plain, tokens := st.tokens ++ [.op [0x3E, 0x3E]] }
    else plainByte { st with mode := .plain, tokens := st.tokens ++ [.op [0x3E]] } c
  | .afterLt =>
    if c = 0x3C ∨ c = 0x3E ∨ c = 0x26 then { st with mode := .failed }
    else plainByte { st with mode := .plain, tokens := st.tokens ++ [.op [0x3C]] } c
  | .failed => st

/-- The tokens, once the line has ended; `none` in a quote, after a trailing
backslash, or when the lexer stopped. -/
def lexFinish (st : LexState) : Option (List ShToken) :=
  match st.mode with
  | .plain => some (st.tokens ++ flushWord st.word)
  | .afterGt => some (st.tokens ++ [.op [0x3E]])
  | .afterLt => some (st.tokens ++ [.op [0x3C]])
  | _ => none

/-- The tokens of a command line. -/
def shLex (line : List UInt8) : Option (List ShToken) :=
  lexFinish (line.foldl lexStep ⟨.plain, none, []⟩)

/-- The arguments of a simple command, its redirections set aside. -/
def shArgs : List ShToken → Option (List (List UInt8))
  | [] => some []
  | .word w :: ts => (shArgs ts).map (w :: ·)
  | .ioNumber _ :: .op _ :: .word _ :: ts => shArgs ts
  | .op _ :: .word _ :: ts => shArgs ts
  | _ => none

/-- The argument vector `/bin/sh -c line` gives the command it runs, when the
line is a simple command whose first word is no assignment. -/
def shArgv (line : List UInt8) : Option (List (List UInt8)) :=
  match (shLex line).bind shArgs with
  | some (cmd :: args) => if 0x3D ∈ cmd then none else some (cmd :: args)
  | _ => none

/-- **A quote in the directory re-splits it.**  For the directory `a' 'b`, the
shell runs git with the two arguments `a` and `b` where the directory should be. -/
theorem gitCommandInDir_resplits_dir :
    (gitCommandInDirCmd (lit "a' 'b") (lit "status")).bind shArgv =
      some [lit "git", lit "-C", lit "a", lit "b", lit "status"] := by
  decide

end Lush
