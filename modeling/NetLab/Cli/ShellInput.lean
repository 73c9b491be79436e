import NetLab.Cli.Containment
import NetLab.Library.Utf8

/-!
# Lines of a shell

A shell reads its input byte by byte. A command that asks for a password reads from the same bytes.
The second byte of a line end may so come to the other reader.
-/

namespace NetLab.Cli

open NetLab.Library List

/-! ## Two readers -/

/-- What is being read: a command or the password for one, with what there is of it. -/
inductive Reading where
  | command (buf : List UInt8)
  | password (line : String) (buf : List UInt8)
  | closed
deriving DecidableEq

/-- What a shell does with its input. -/
inductive Observed where
  | dispatched (line : String)
  | password (text : String)
  | privilege (level : Int)
deriving DecidableEq

structure Shell (Rest : Type) where
  session : Session Rest
  reading : Reading := .command []
  log : List Observed := []

section Reading

variable {Rest : Type} (handlers : Handlers Rest)

/-- The command asks for a password. -/
def Session.asks (session : Session Rest) (line : String) : Bool :=
  handlers.letters.lower line ∈ ["enable", "en"] && session.privilege < 15

def privilegeChange (before after : Session Rest) : List Observed :=
  if after.privilege = before.privilege then [] else [.privilege after.privilege]

namespace Shell

variable (shell : Shell Rest)

/-- A line of `_run_shell` is complete. -/
def enter (buf : List UInt8) : Shell Rest :=
  let line := strip (Utf8.decode buf)
  if handlers.letters.lower line ∈ ["exit", "quit", "logout"] ∧ shell.session.device.mode = "exec"
    then { shell with reading := .closed }
  else if line = "" then { shell with reading := .command [] }
  else if shell.session.asks handlers line then
    { shell with reading := .password line [], log := shell.log ++ [.dispatched line] }
  else
    let session := (dispatch handlers shell.session ⟨line, none⟩).2
    { session := session, reading := .command []
      log := shell.log ++ (.dispatched line :: privilegeChange shell.session session) }

/-- `_read_password` gives a password to the command that asked for it. -/
def answer (line text : String) : Shell Rest :=
  let session := (dispatch handlers shell.session ⟨line, some text⟩).2
  { session := session, reading := .command []
    log := shell.log ++ (.password text :: privilegeChange shell.session session) }

/-- A byte is read, by `_run_shell` or by `_read_password`. -/
def readByte (byte : UInt8) : Shell Rest :=
  match shell.reading with
  | .closed => shell
  | .command buf =>
    if byte = 0x0d ∨ byte = 0x0a then shell.enter handlers buf
    else if byte = 0x7f then { shell with reading := .command buf.dropLast }
    else if byte = 0x03 then { shell with reading := .command [] }
    else if byte = 0x04 then { shell with reading := .closed }
    else { shell with reading := .command (buf ++ [byte]) }
  | .password line buf =>
    if byte = 0x0d ∨ byte = 0x0a then shell.answer handlers line (Utf8.decode buf)
    else if byte = 0x7f then { shell with reading := .password line buf.dropLast }
    else if byte = 0x03 then shell.answer handlers line ""
    else { shell with reading := .password line (buf ++ [byte]) }

def feed (bytes : List UInt8) : Shell Rest :=
  bytes.foldl (fun shell byte => shell.readByte handlers byte) shell

end Shell

/-! ## Lines -/

/-- A line that is typed: it holds no line end, and no end of the input. -/
structure InputLine where
  bytes : List UInt8
  oneLine : ∀ byte ∈ bytes, byte ≠ 0x0d ∧ byte ≠ 0x0a ∧ byte ≠ 0x04

inductive LineEnd where
  | cr
  | lf
  | crlf
deriving DecidableEq

def LineEnd.bytes : LineEnd → List UInt8
  | .cr => [0x0d]
  | .lf => [0x0a]
  | .crlf => [0x0d, 0x0a]

/-- Lines with their ends. -/
def stream (lines : List (InputLine × LineEnd)) : List UInt8 :=
  lines.flatMap fun line => line.1.bytes ++ line.2.bytes

def fed (lines : List (InputLine × LineEnd)) : List (InputLine × LineEnd) :=
  lines.map fun line => (line.1, .lf)

/-- The bytes of a password, of which the keys for corrections are carried out. -/
def editPassword : (buf : List UInt8) → List UInt8 → List UInt8
  | buf, [] => buf
  | buf, byte :: later =>
    if byte = 0x7f then editPassword buf.dropLast later
    else if byte = 0x03 then []
    else editPassword (buf ++ [byte]) later

def InputLine.readsEmpty (line : InputLine) : Prop := editPassword [] line.bytes = []

instance (line : InputLine) : Decidable line.readsEmpty :=
  inferInstanceAs (Decidable (editPassword [] line.bytes = []))

namespace Shell

variable (shell : Shell Rest)

/-- A password is being asked for. -/
def Asking : Prop := ∃ line, shell.reading = .password line []

def feedLine (line : InputLine) : Shell Rest :=
  shell.feed handlers (line.bytes ++ LineEnd.lf.bytes)

end Shell

/-- No command that asks for a password is ended by two bytes, unless the line behind it is empty when
it is read as a password. -/
def Undivided : Shell Rest → List (InputLine × LineEnd) → Prop
  | _, [] => True
  | shell, line :: later =>
    (line.2 = .crlf → (shell.feedLine handlers line.1).Asking →
      ∃ next ∈ later.head?, next.1.readsEmpty) ∧
    Undivided (shell.feedLine handlers line.1) later

end Reading

/-! ## One line -/

section Lines

variable {Rest : Type} {handlers : Handlers Rest} {shell : Shell Rest}

theorem feed_append (first second : List UInt8) :
    shell.feed handlers (first ++ second) = (shell.feed handlers first).feed handlers second :=
  foldl_append

theorem readByte_closed (closed : shell.reading = .closed) (byte : UInt8) :
    shell.readByte handlers byte = shell := by
  rw [Shell.readByte, closed]

theorem readByte_return : shell.readByte handlers 0x0d = shell.readByte handlers 0x0a := by
  unfold Shell.readByte
  cases shell.reading <;> rfl

/-- A shell before or behind a whole line. -/
structure AtLine (shell : Shell Rest) : Prop where
  command : ∀ buf, shell.reading = .command buf → buf = []
  password : ∀ line buf, shell.reading = .password line buf → buf = []

theorem atLine_enter (buf : List UInt8) : AtLine (shell.enter handlers buf) := by
  unfold Shell.enter
  dsimp only
  split
  case isTrue => exact ⟨nofun, nofun⟩
  case isFalse =>
      split
      case isTrue =>
          refine ⟨?_, nofun⟩
          rintro buf ⟨⟩
          rfl
      case isFalse =>
          split
          case isTrue =>
              refine ⟨nofun, ?_⟩
              rintro line buf ⟨⟩
              rfl
          case isFalse =>
              refine ⟨?_, nofun⟩
              rintro buf ⟨⟩
              rfl

theorem atLine_answer (line text : String) : AtLine (shell.answer handlers line text) := by
  refine ⟨?_, nofun⟩
  rintro buf ⟨⟩
  rfl

theorem atLine_lineFeed : AtLine (shell.readByte handlers 0x0a) := by
  unfold Shell.readByte
  split
  case h_1 closed => exact ⟨by rw [closed]; exact nofun, by rw [closed]; exact nofun⟩
  case h_2 => exact atLine_enter _
  case h_3 => exact atLine_answer _ _

theorem atLine_feedLine (line : InputLine) : AtLine (shell.feedLine handlers line) := by
  rw [Shell.feedLine, feed_append]
  exact atLine_lineFeed

theorem enter_nil (empty : handlers.letters.lower "" = "") (ready : shell.reading = .command []) :
    shell.enter handlers [] = shell := by
  have blank : strip (Utf8.decode []) = "" := by decide
  unfold Shell.enter
  rw [blank]
  dsimp only
  rw [empty, if_neg (fun both => absurd both.1 (by decide)), if_pos rfl, ← ready]

/-- A second byte of a line end changes nothing, unless a password is asked for. -/
theorem lineFeed_of_not_asking (empty : handlers.letters.lower "" = "") (atLine : AtLine shell)
    (silent : ¬ shell.Asking) : shell.readByte handlers 0x0a = shell := by
  cases reading : shell.reading with
  | closed => exact readByte_closed reading 0x0a
  | command buf =>
    have bare := atLine.command buf reading
    rw [bare] at reading
    rw [Shell.readByte, reading]
    exact enter_nil empty reading
  | password line buf =>
    have bare := atLine.password line buf reading
    exact absurd ⟨line, bare ▸ reading⟩ silent

theorem feed_lineEnd (line : InputLine) (ending : LineEnd) :
    shell.feed handlers (line.bytes ++ ending.bytes) =
      if ending = .crlf then (shell.feedLine handlers line).readByte handlers 0x0a
      else shell.feedLine handlers line := by
  have first : ((shell.feed handlers line.bytes).readByte handlers 0x0d) =
      shell.feedLine handlers line := by
    rw [readByte_return, Shell.feedLine, feed_append]
    rfl
  rw [feed_append]
  cases ending with
  | cr => exact first
  | lf => exact (feed_append _ _).symm
  | crlf => exact congrArg (fun shell => shell.readByte handlers 0x0a) first

/-! ## Passwords -/

/-- A byte of a line, read by `_read_password`. -/
theorem readByte_password (line : String) (buf : List UInt8) {byte : UInt8}
    (inside : byte ≠ 0x0d ∧ byte ≠ 0x0a ∧ byte ≠ 0x04) :
    ({ shell with reading := .password line buf } : Shell Rest).readByte handlers byte =
      if byte = 0x7f then { shell with reading := .password line buf.dropLast }
      else if byte = 0x03 then shell.answer handlers line ""
      else { shell with reading := .password line (buf ++ [byte]) } := by
  unfold Shell.readByte
  dsimp only
  rw [if_neg (not_or.mpr ⟨inside.1, inside.2.1⟩)]
  rfl

/-- A byte of a line, read by `_run_shell`. -/
theorem readByte_command (buf : List UInt8) {byte : UInt8}
    (inside : byte ≠ 0x0d ∧ byte ≠ 0x0a ∧ byte ≠ 0x04) :
    ({ shell with reading := .command buf } : Shell Rest).readByte handlers byte =
      if byte = 0x7f then { shell with reading := .command buf.dropLast }
      else if byte = 0x03 then { shell with reading := .command [] }
      else { shell with reading := .command (buf ++ [byte]) } := by
  unfold Shell.readByte
  dsimp only
  rw [if_neg (not_or.mpr ⟨inside.1, inside.2.1⟩), if_neg inside.2.2]

theorem feed_cons (byte : UInt8) (later : List UInt8) :
    shell.feed handlers (byte :: later) = (shell.readByte handlers byte).feed handlers later := rfl

/-- A line that is empty when it is read as a password has no effect on the shell, either, once an
empty password was read. -/
theorem feed_of_readsEmpty (empty : handlers.letters.lower "" = "") (line : String)
    {bytes : List UInt8} (oneLine : ∀ byte ∈ bytes, byte ≠ 0x0d ∧ byte ≠ 0x0a ∧ byte ≠ 0x04)
    (buf : List UInt8) (none : editPassword buf bytes = []) :
    ({ shell with reading := .password line buf } : Shell Rest).feed handlers (bytes ++ [0x0a]) =
      ({ shell.answer handlers line "" with reading := .command buf } : Shell Rest).feed handlers
        (bytes ++ [0x0a]) := by
  induction bytes generalizing buf with
  | nil =>
    rw [editPassword] at none
    rw [none]
    exact (enter_nil empty rfl).symm
  | cons byte later ih =>
    have inside := oneLine byte mem_cons_self
    have next := ih fun byte member => oneLine byte (mem_cons_of_mem _ member)
    rw [editPassword] at none
    rw [cons_append, feed_cons, feed_cons, readByte_password line buf inside,
      readByte_command buf inside]
    split at none
    case isTrue correction =>
        rw [if_pos correction, if_pos correction]
        exact next buf.dropLast none
    case isFalse plain =>
        rw [if_neg plain, if_neg plain]
        split at none
        case isTrue interrupt =>
            rw [if_pos interrupt, if_pos interrupt]
            rfl
        case isFalse visible =>
            rw [if_neg visible, if_neg visible]
            exact next (buf ++ [byte]) none

theorem feed_of_not_readsEmpty (line : String) {bytes : List UInt8}
    (oneLine : ∀ byte ∈ bytes, byte ≠ 0x0d ∧ byte ≠ 0x0a ∧ byte ≠ 0x04)
    (buf : List UInt8) (some_text : editPassword buf bytes ≠ []) :
    ({ shell with reading := .password line buf } : Shell Rest).feed handlers (bytes ++ [0x0a]) =
      shell.answer handlers line (Utf8.decode (editPassword buf bytes)) := by
  induction bytes generalizing buf with
  | nil => rfl
  | cons byte later ih =>
    have inside := oneLine byte mem_cons_self
    have next := ih fun byte member => oneLine byte (mem_cons_of_mem _ member)
    rw [editPassword] at some_text ⊢
    rw [cons_append, feed_cons, readByte_password line buf inside]
    split at some_text
    case isTrue correction =>
        rw [if_pos correction, if_pos correction]
        exact next buf.dropLast some_text
    case isFalse plain =>
        rw [if_neg plain, if_neg plain]
        split at some_text
        case isTrue => exact absurd rfl some_text
        case isFalse visible =>
            rw [if_neg visible, if_neg visible]
            exact next (buf ++ [byte]) some_text

/-! ## Logs -/

theorem log_readByte (byte : UInt8) :
    ∃ more, (shell.readByte handlers byte).log = shell.log ++ more := by
  have entered : ∀ buf, ∃ more, (shell.enter handlers buf).log = shell.log ++ more := by
    intro buf
    unfold Shell.enter
    dsimp only
    split
    case isTrue => exact ⟨[], (append_nil _).symm⟩
    case isFalse =>
        split
        case isTrue => exact ⟨[], (append_nil _).symm⟩
        case isFalse => split <;> exact ⟨_, rfl⟩
  unfold Shell.readByte
  split
  case h_1 => exact ⟨[], (append_nil _).symm⟩
  case h_2 buf _ =>
      split
      case isTrue => exact entered buf
      case isFalse =>
          split
          case isTrue => exact ⟨[], (append_nil _).symm⟩
          case isFalse =>
              split
              case isTrue => exact ⟨[], (append_nil _).symm⟩
              case isFalse => split <;> exact ⟨[], (append_nil _).symm⟩
  case h_3 =>
      split
      case isTrue => exact ⟨_, rfl⟩
      case isFalse =>
          split
          case isTrue => exact ⟨[], (append_nil _).symm⟩
          case isFalse =>
              split
              case isTrue => exact ⟨_, rfl⟩
              case isFalse => exact ⟨[], (append_nil _).symm⟩

/-- What was observed stays observed. -/
theorem log_feed (bytes : List UInt8) :
    ∃ more, (shell.feed handlers bytes).log = shell.log ++ more := by
  induction bytes generalizing shell with
  | nil => exact ⟨[], (append_nil _).symm⟩
  | cons byte later ih =>
    obtain ⟨first, here⟩ := @log_readByte Rest handlers shell byte
    obtain ⟨rest, there⟩ := @ih (shell.readByte handlers byte)
    exact ⟨first ++ rest, by rw [feed_cons, there, here, append_assoc]⟩

/-- Different passwords stay apart. -/
theorem answers_differ (line : String) {first second : String} (different : first ≠ second)
    (later later' : List UInt8) :
    ((shell.answer handlers line first).feed handlers later).log ≠
      ((shell.answer handlers line second).feed handlers later').log := by
  intro same
  obtain ⟨more, here⟩ := @log_feed Rest handlers (shell.answer handlers line first) later
  obtain ⟨more', there⟩ := @log_feed Rest handlers (shell.answer handlers line second) later'
  rw [here, there, Shell.answer, Shell.answer, append_assoc, append_assoc] at same
  have heads := append_cancel_left same
  rw [cons_append, cons_append] at heads
  exact different (Observed.password.inj (List.cons.inj heads).1)

end Lines

/-! ## Every list of lines -/

section Independence

variable {Rest : Type} {handlers : Handlers Rest}

theorem stream_cons (line : InputLine × LineEnd) (later : List (InputLine × LineEnd)) :
    stream (line :: later) = (line.1.bytes ++ line.2.bytes) ++ stream later := flatMap_cons

theorem undivided_cons_congr {shell other : Shell Rest} {line : InputLine × LineEnd}
    {later : List (InputLine × LineEnd)}
    (same : shell.feedLine handlers line.1 = other.feedLine handlers line.1) :
    Undivided handlers shell (line :: later) ↔ Undivided handlers other (line :: later) := by
  rw [Undivided, Undivided, same]

theorem feed_fed_cons (shell : Shell Rest) (line : InputLine × LineEnd)
    (later : List (InputLine × LineEnd)) :
    shell.feed handlers (stream (fed (line :: later))) =
      (shell.feedLine handlers line.1).feed handlers (stream (fed later)) := by
  rw [fed, map_cons, stream_cons, feed_append]
  rfl

theorem feed_undivided (empty : handlers.letters.lower "" = "") (shell : Shell Rest)
    (line : InputLine × LineEnd)
    (undivided : ¬ (line.2 = .crlf ∧ (shell.feedLine handlers line.1).Asking)) :
    shell.feed handlers (line.1.bytes ++ line.2.bytes) = shell.feedLine handlers line.1 := by
  rw [feed_lineEnd]
  split
  case isFalse => rfl
  case isTrue two =>
      exact lineFeed_of_not_asking empty (atLine_feedLine line.1) fun asking =>
        undivided ⟨two, asking⟩

theorem feed_divided {shell : Shell Rest} {line : InputLine × LineEnd} {name : String}
    (two : line.2 = .crlf)
    (asking : (shell.feedLine handlers line.1).reading = .password name []) :
    shell.feed handlers (line.1.bytes ++ line.2.bytes) =
      (shell.feedLine handlers line.1).answer handlers name "" := by
  rw [feed_lineEnd, if_pos two, Shell.readByte, asking]
  rfl

/-- Line feeds and other line ends lead to the same commands, passwords and privileges exactly if no
command that asks for a password is divided from it. -/
theorem log_iff_undivided (empty : handlers.letters.lower "" = "") (shell : Shell Rest)
    (lines : List (InputLine × LineEnd)) :
    (shell.feed handlers (stream lines)).log = (shell.feed handlers (stream (fed lines))).log ↔
      Undivided handlers shell lines := by
  induction lines generalizing shell with
  | nil => exact ⟨fun _ => trivial, fun _ => rfl⟩
  | cons line later ih =>
    rw [stream_cons, feed_append, feed_fed_cons, Undivided]
    by_cases divided : line.2 = .crlf ∧ (shell.feedLine handlers line.1).Asking
    case neg =>
        rw [feed_undivided empty shell line divided, ih]
        exact ⟨fun rest => ⟨fun two asking => absurd ⟨two, asking⟩ divided, rest⟩, And.right⟩
    obtain ⟨two, name, asking⟩ := divided
    rw [feed_divided two asking]
    have reread : shell.feedLine handlers line.1 =
        { shell.feedLine handlers line.1 with reading := .password name [] } := by
      rw [← asking]
    generalize shell.feedLine handlers line.1 = asked at asking reread ⊢
    cases later with
    | nil =>
      constructor
      · intro same
        have length := congrArg List.length same
        change (asked.log ++ _).length = asked.log.length at length
        rw [length_append, length_cons] at length
        omega
      · rintro ⟨behind, -⟩
        obtain ⟨next, inside, -⟩ := behind two ⟨name, asking⟩
        cases inside
    | cons next rest =>
      by_cases none : next.1.readsEmpty
      · have resumed : asked.feedLine handlers next.1 =
            (asked.answer handlers name "").feedLine handlers next.1 := by
          rw [reread]
          exact feed_of_readsEmpty empty name next.1.oneLine [] none
        rw [feed_fed_cons, resumed, ← feed_fed_cons, ih, ← undivided_cons_congr resumed]
        exact ⟨fun later => ⟨fun _ _ => ⟨next, rfl, none⟩, later⟩, And.right⟩
      · constructor
        · intro same
          have taken : asked.feedLine handlers next.1 =
              asked.answer handlers name (Utf8.decode (editPassword [] next.1.bytes)) := by
            rw [reread]
            exact feed_of_not_readsEmpty name next.1.oneLine [] none
          rw [feed_fed_cons, taken] at same
          exact absurd same (answers_differ name (Utf8.decode_ne_empty none).symm _ _)
        · rintro ⟨behind, -⟩
          obtain ⟨other, inside, reads⟩ := behind two ⟨name, asking⟩
          cases inside
          exact absurd reads none

/-- For every list of lines, any line ends lead to the same commands, passwords and privileges as line
feeds exactly if no command that asks for a password is divided from it. -/
theorem independent_iff (handlers : Handlers Rest) (empty : handlers.letters.lower "" = "")
    (session : Session Rest) (lines : List (InputLine × LineEnd)) :
    (({ session := session } : Shell Rest).feed handlers (stream lines)).log =
        (({ session := session } : Shell Rest).feed handlers (stream (fed lines))).log ↔
      Undivided handlers { session := session } lines :=
  log_iff_undivided empty { session := session } lines

end Independence

def plainLine (text : String) (oneLine : ∀ byte ∈ Utf8.encode text,
    byte ≠ 0x0d ∧ byte ≠ 0x0a ∧ byte ≠ 0x04) : InputLine := ⟨Utf8.encode text, oneLine⟩

theorem oneLine_of_all {text : String} (all : (Utf8.encode text).all (fun byte =>
    byte ≠ 0x0d ∧ byte ≠ 0x0a ∧ byte ≠ 0x04) = true) :
    ∀ byte ∈ Utf8.encode text, byte ≠ 0x0d ∧ byte ≠ 0x0a ∧ byte ≠ 0x04 :=
  fun byte inside => of_decide_eq_true (all_eq_true.mp all byte inside)

/-- The privileged mode is asked for, with its password. -/
def enableLines (ending : LineEnd) : List (InputLine × LineEnd) :=
  [(plainLine "enable" (oneLine_of_all (by decide)), ending),
    (plainLine "secret" (oneLine_of_all (by decide)), ending)]

theorem returns_like_feeds :
    (({ session := guest } : Shell Unit).feed namedHandlers (stream (enableLines .cr))).log =
        (({ session := guest } : Shell Unit).feed namedHandlers
          (stream (fed (enableLines .cr)))).log ↔
      Undivided namedHandlers { session := guest } (enableLines .cr) :=
  independent_iff namedHandlers (by decide) guest (enableLines .cr)

/-- With both bytes, an empty password is read, and the password is taken for a command. -/
theorem password_taken_for_command :
    (({ session := guest } : Shell Unit).feed namedHandlers (stream (enableLines .crlf))).log ≠
      (({ session := guest } : Shell Unit).feed namedHandlers
        (stream (fed (enableLines .crlf)))).log := by
  decide +kernel

end NetLab.Cli
