import Mathlib.Data.List.Basic

/-!
# Words of a shell

A line is split at its blanks, with quotes and backslashes as a shell reads them.
-/

namespace NetLab.Library.Shell

/-- Where the reader is: between words, in a word, in quotes, or behind a backslash of either. -/
inductive Place where
  | between
  | word
  | quoted (mark : Char)
  | escaped (mark : Option Char)

def isBlank (char : Char) : Bool := char = ' ' || char = '\t' || char = '\r' || char = '\n'

def isQuote (char : Char) : Bool := char = '\'' || char = '"'

def splitFrom : Place → (current : List Char) → List Char → Except String (List String)
  | .between, _, [] => .ok []
  | .word, current, [] => .ok [String.ofList current.reverse]
  | .quoted _, _, [] => .error "No closing quotation"
  | .escaped _, _, [] => .error "No escaped character"
  | .between, _, char :: rest =>
    if isBlank char then splitFrom .between [] rest
    else if char = '\\' then splitFrom (.escaped none) [] rest
    else if isQuote char then splitFrom (.quoted char) [] rest
    else splitFrom .word [char] rest
  | .word, current, char :: rest =>
    if isBlank char then
      (splitFrom .between [] rest).map fun later => String.ofList current.reverse :: later
    else if char = '\\' then splitFrom (.escaped none) current rest
    else if isQuote char then splitFrom (.quoted char) current rest
    else splitFrom .word (char :: current) rest
  | .quoted mark, current, char :: rest =>
    if char = mark then splitFrom .word current rest
    else if char = '\\' ∧ mark = '"' then splitFrom (.escaped (some mark)) current rest
    else splitFrom (.quoted mark) (char :: current) rest
  | .escaped none, current, char :: rest => splitFrom .word (char :: current) rest
  | .escaped (some mark), current, char :: rest =>
    if char = '\\' ∨ char = mark then splitFrom (.quoted mark) (char :: current) rest
    else splitFrom (.quoted mark) (char :: '\\' :: current) rest

/-- `shlex.split`. -/
def split (line : String) : Except String (List String) := splitFrom .between [] line.toList

example : split "--name 'a b' x\\ y \"\"" = .ok ["--name", "a b", "x y", ""] := by decide

end NetLab.Library.Shell
