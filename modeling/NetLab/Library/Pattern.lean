import NetLab.Library.Blanks

/-!
# Patterns of texts

A pattern gives the places where a match may end, in the order in which a backtracking search tries
them, so the first of them is the match. Letters match in either case.
-/

namespace NetLab.Library

open List

/-- A place in a text: the character before it and what follows. -/
structure Cursor where
  before : Option Char
  rest : List Char
deriving DecidableEq

/-- Where a match that starts at a place may end. -/
abbrev Pattern := Cursor → List Cursor

namespace Pattern

/-- One character with a property. -/
def char (test : Char → Bool) : Pattern := fun place =>
  match place.rest with
  | [] => []
  | first :: rest => if test first then [⟨some first, rest⟩] else []

def seq : List Pattern → Pattern
  | [] => fun place => [place]
  | first :: rest => fun place => (first place).flatMap (seq rest)

def oneOf (choices : List Pattern) : Pattern := fun place =>
  choices.flatMap fun choice => choice place

def opt (pattern : Pattern) : Pattern := oneOf [pattern, seq []]

/-- A text, each letter as `alike` compares it with a character. -/
def wordAs (alike : Char → Char → Bool) (text : String) : Pattern :=
  seq (text.toList.map fun letter => char (alike letter))

/-- A text, in either case. -/
def word : String → Pattern := wordAs fun letter char => char.toLower = letter.toLower

/-- A text as it is. -/
def exact : String → Pattern := wordAs fun letter char => char = letter

/-- Characters with a property, as many as possible first, at least `least` of them. -/
def run (test : Char → Bool) : (least : Nat) → Pattern
  | least => fun place => go test least place.before place.rest
where
  go (test : Char → Bool) (least : Nat) (before : Option Char) : List Char → List Cursor
    | [] => if least = 0 then [⟨before, []⟩] else []
    | first :: rest =>
      (if test first then go test (least - 1) (some first) rest else []) ++
        (if least = 0 then [⟨before, first :: rest⟩] else [])

/-- From one to `most` characters with a property, as many as possible first. -/
def upTo (test : Char → Bool) : (most : Nat) → Pattern
  | 0 => fun _ => []
  | most + 1 => seq [char test, opt (upTo test most)]

def isWord (char : Char) : Bool := char.isAlphanum || char = '_'

def boundaryOf (isWord : Char → Bool) : Pattern := fun place =>
  if (place.before.map isWord).getD false ≠ (place.rest.head?.map isWord).getD false then [place]
  else []

def boundary : Pattern := boundaryOf isWord

/-- At the end of the text, or before a line break there. -/
def atEnd : Pattern := fun place => if place.rest = [] ∨ place.rest = ['\n'] then [place] else []

def blanks : Pattern := run isSpace 1

def someBlanks : Pattern := run isSpace 0

def visible : Pattern := run (fun char => !isSpace char) 1

def digits : Pattern := run Char.isDigit 1

def isMatch (pattern : Pattern) (text : String) : Bool := pattern ⟨none, text.toList⟩ ≠ []

/-- The part of a text from one place to a later one. -/
def taken (start finish : Cursor) : List Char :=
  start.rest.take (start.rest.length - finish.rest.length)

/-- All matches in a text from left to right, none of which overlap. -/
def findAll (pattern : Pattern) : (fuel : Nat) → Cursor → List (List Char)
  | 0, _ => []
  | fuel + 1, place =>
    match pattern place, place.rest with
    | finish :: _, first :: rest =>
      taken place finish :: findAll pattern fuel
        (if finish.rest.length < place.rest.length then finish else ⟨some first, rest⟩)
    | finish :: _, [] => [taken place finish]
    | [], [] => []
    | [], first :: rest => findAll pattern fuel ⟨some first, rest⟩

/-- The pattern matches somewhere in a text. -/
def occursIn (pattern : Pattern) (text : String) : Bool :=
  findAll pattern (text.length + 1) ⟨none, text.toList⟩ ≠ []

theorem seq_nil (place : Cursor) : seq [] place = [place] := rfl

theorem seq_cons (first : Pattern) (rest : List Pattern) (place : Cursor) :
    seq (first :: rest) place = (first place).flatMap (seq rest) := rfl

theorem rest_of_exact {letters : List Char} {place finish : Cursor}
    (matched : finish ∈ seq (letters.map fun letter => char fun other => other = letter) place) :
    place.rest = letters ++ finish.rest := by
  induction letters generalizing place with
  | nil =>
    cases mem_singleton.mp matched
    rfl
  | cons letter later ih =>
    obtain ⟨next, first, rest⟩ := mem_flatMap.mp matched
    simp only [char] at first
    split at first
    · cases first
    · rename_i found unread eq
      split at first
      · rename_i same
        cases mem_singleton.mp first
        rw [eq, of_decide_eq_true same]
        exact congrArg (letter :: ·) (ih rest)
      · cases first

theorem starts_of_isMatch {start text : String} {later : List Pattern}
    (matched : isMatch (seq (exact start :: later)) text = true) :
    start.toList <+: text.toList := by
  obtain ⟨finish, inside⟩ := exists_mem_of_ne_nil _ (of_decide_eq_true matched)
  obtain ⟨next, first, -⟩ := mem_flatMap.mp inside
  exact ⟨next.rest, (rest_of_exact first).symm⟩

/-- A text is a match of itself, in one way. -/
theorem wordAs_self {alike : Char → Char → Bool} (same : ∀ char, alike char char = true)
    (letters rest : List Char) (before : Option Char) :
    ∃ last, seq (letters.map fun letter => char (alike letter)) ⟨before, letters ++ rest⟩ =
      [⟨last, rest⟩] := by
  induction letters generalizing before with
  | nil => exact ⟨before, rfl⟩
  | cons letter later ih =>
    obtain ⟨last, matched⟩ := ih (some letter)
    refine ⟨last, ?_⟩
    have first : char (alike letter) ⟨before, letter :: later ++ rest⟩ =
        [⟨some letter, later ++ rest⟩] := if_pos (same letter)
    rw [map_cons, seq_cons, first, flatMap_singleton, matched]

theorem blanks_of_single {blank : Char} (isBlank : isSpace blank = true) {rest : List Char}
    (begun : ∀ char ∈ rest.head?, isSpace char = false) (before : Option Char) :
    blanks ⟨before, blank :: rest⟩ = [⟨some blank, rest⟩] := by
  cases rest with
  | nil => simp [blanks, run, run.go, isBlank]
  | cons char later => simp [blanks, run, run.go, isBlank, begun char rfl]

end Pattern

end NetLab.Library
