import Mathlib.Data.List.Basic

/-!
# Patterns of file names

Patterns with stars, question marks and sets of characters, as they are known from a shell. A text
matches as a whole.
-/

namespace NetLab.Library.Glob

/-- A part of a pattern. A set holds the characters between the ends of its ranges, or the others. -/
inductive Token where
  | star
  | one
  | literal (char : Char)
  | set (negated : Bool) (ranges : List (Char × Char))

/-- Ranges in a set. A hyphen at an end of the set stands for itself. -/
def ranges : List Char → List (Char × Char)
  | first :: '-' :: last :: rest => (first, last) :: ranges rest
  | first :: rest => (first, first) :: ranges rest
  | [] => []

/-- What a set holds and what comes behind it, after the bracket that opens it. A bracket closes the
set unless it comes first. -/
def closeSet (rest : List Char) : Option (Token × List Char) :=
  let negated := rest.head? = some '!'
  let inner := if negated then rest.tail else rest
  let first := if inner.head? = some ']' then [']'] else []
  let behind := inner.drop first.length
  match behind.dropWhile fun char => char ≠ ']' with
  | [] => none
  | _ :: later =>
    some (.set negated (ranges (first ++ behind.takeWhile fun char => char ≠ ']')), later)

/-- The parts of a pattern, at most as many as the fuel. -/
def parse : (fuel : Nat) → List Char → List Token
  | 0, _ => []
  | _ + 1, [] => []
  | fuel + 1, '*' :: rest => .star :: parse fuel rest
  | fuel + 1, '?' :: rest => .one :: parse fuel rest
  | fuel + 1, '[' :: rest =>
    match closeSet rest with
    | some (token, later) => token :: parse fuel later
    | none => .literal '[' :: parse fuel rest
  | fuel + 1, char :: rest => .literal char :: parse fuel rest

def matchTokens : List Token → List Char → Bool
  | [], text => text.isEmpty
  | .star :: later, text => text.tails.any (matchTokens later)
  | .one :: later, text =>
    match text with
    | [] => false
    | _ :: rest => matchTokens later rest
  | .literal char :: later, text =>
    match text with
    | [] => false
    | first :: rest => first = char && matchTokens later rest
  | .set negated ranges :: later, text =>
    match text with
    | [] => false
    | first :: rest =>
      (ranges.any fun range => range.1 ≤ first && first ≤ range.2) != negated &&
        matchTokens later rest

/-- `fnmatch`, for names in which case matters. -/
def fnmatch (text pattern : String) : Bool :=
  matchTokens (parse pattern.length pattern.toList) text.toList

end NetLab.Library.Glob
