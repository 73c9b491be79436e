import NetLab.Junos.Configuration

/-!
# Commits and what they should make

The candidates are lines, and lines are found by the text they start with. `commits_exactly` says which
commands keep the committed lines to the reference, and what is in effect to the committed lines.
-/

namespace NetLab.Junos

open NetLab.Library NetLab.Cli NetLab.Execution List Option Statement

/-! ## Statements and their lines -/

namespace Statement

def path (statement : Statement) : List String := statement.words.dropLast

/-- A statement whose line is read back. -/
structure Formed (letters : Letters) (statement : Statement) : Prop where
  solid : ∀ word ∈ statement.words, Solid word
  read : readLine letters statement.text = some statement

end Statement

section Lines

variable {letters : Letters} {statement other : Statement}

theorem words_eq_path (statement : Statement) :
    ∃ last ∈ statement.words, statement.words = statement.path ++ [last] := by
  have filled : statement.words ≠ [] := by cases statement <;> exact cons_ne_nil _ _
  exact ⟨statement.words.getLast filled, getLast_mem filled, (dropLast_append_getLast filled).symm⟩

theorem path_ne_nil (statement : Statement) : statement.path ≠ [] := by
  cases statement <;> exact cons_ne_nil _ _

theorem path_eq_iff : other.path = statement.path ↔ other.subject = statement.subject := by
  cases other <;> cases statement <;> simp [path, Statement.words, subject]

namespace Statement.Formed

section

variable (formed : statement.Formed letters)
include formed

theorem words_text : Library.words statement.text = statement.words :=
  words_unwords formed.solid

theorem solid_path : ∀ word ∈ statement.path, Solid word :=
  fun word inside => formed.solid word (dropLast_subset _ inside)

theorem stem_text : stem statement.text = unwords statement.path := by
  obtain ⟨last, inside, shape⟩ := words_eq_path statement
  rw [text, shape, stem_unwords (path_ne_nil statement) (formed.solid last inside)]

theorem starts_stem : Starts (stem statement.text) statement.text := by
  obtain ⟨last, -, shape⟩ := words_eq_path statement
  rw [formed.stem_text, text, shape]
  exact starts_unwords (path_ne_nil statement) [last]

theorem stem_eq_iff (formed' : other.Formed letters) :
    stem other.text = stem statement.text ↔ other.subject = statement.subject := by
  rw [formed.stem_text, formed'.stem_text, ← path_eq_iff]
  exact ⟨unwords_injective formed'.solid_path formed.solid_path, congrArg unwords⟩

end

end Statement.Formed

theorem readAddress_text {value : String} {address : String × String}
    (read : readAddress letters value = some address) : address.1 ++ "/" ++ address.2 = value := by
  unfold readAddress at read
  dsimp only at read
  split at read
  case isTrue legal =>
      cases read
      obtain ⟨-, -, inside, -⟩ := legal
      apply String.ext
      rw [String.toList_append, String.toList_append, String.toList_ofList, String.toList_ofList]
      generalize value.toList = chars at inside ⊢
      have split := takeWhile_append_dropWhile (p := fun char => decide (char ≠ '/')) (l := chars)
      cases behind : chars.dropWhile fun char => decide (char ≠ '/') with
      | nil =>
        rw [behind, append_nil] at split
        rw [split] at inside
        exact absurd inside (lt_irrefl _)
      | cons first rest =>
        have slash : first = '/' := by
          have refused := head?_dropWhile_not (fun char => decide (char ≠ '/')) chars
          rw [behind] at refused
          simpa using refused
        rw [behind, slash] at split
        generalize (chars.takeWhile fun char => decide (char ≠ '/')) = ip at split
        subst split
        have later : (ip ++ '/' :: rest).drop (ip.length + 1) = rest := by
          rw [← singleton_append, ← append_assoc]
          exact drop_left' (by simp)
        rw [later]
        simp
  case isFalse => cases read

theorem words_of_readPath {list : List String} (read : readPath letters list = some statement) :
    statement.words = list := by
  unfold readPath at read
  split at read
  case h_1 port unit value =>
      split at read
      case isTrue =>
          obtain ⟨address, found, rfl⟩ := map_eq_some_iff.mp read
          rw [Statement.words, readAddress_text found]
      case isFalse => cases read
  case h_2 => cases read; rfl
  case h_3 => cases read; rfl
  case h_4 => cases read

theorem formed_of_readSet {c : String} (read : readSet letters c = some statement) :
    statement.Formed letters := by
  unfold readSet at read
  split at read
  case h_1 list shape =>
      split at read
      case h_1 found =>
          cases read
          have same := words_of_readPath found
          have solid : ∀ word ∈ statement.words, Solid word := by
            intro word inside
            have listed : word ∈ words c := by
              rw [shape, ← same]
              exact mem_cons_of_mem _ inside
            exact solid_of_mem_words listed
          refine ⟨solid, ?_⟩
          rw [readLine, text, words_unwords solid, same, found]
      case h_2 => 
          split at read
          case isTrue => 
              cases read
              exact ⟨by decide, rfl⟩
          case isFalse =>
              split at read
              case isTrue => 
                  cases read
                  exact ⟨by decide, rfl⟩
              case isFalse => cases read
  case h_2 => cases read

theorem words_of_readSet {c : String} (read : readSet letters c = some statement) :
    words c = "set" :: statement.words := by
  unfold readSet at read
  split at read
  case h_1 list shape =>
      split at read
      case h_1 found =>
          cases read
          rw [shape, words_of_readPath found]
      case h_2 =>
          split at read
          case isTrue same =>
              cases read
              rw [same]
              rfl
          case isFalse =>
              split at read
              case isTrue same =>
                  cases read
                  rw [same]
                  rfl
              case isFalse => cases read
  case h_2 => cases read

end Lines

/-! ## The condition -/

section Condition

variable (letters : Letters)

/-- A line is in the way of a statement: it starts with the statement's stem and has another one, or
it disables the port that the statement gives an address. -/
def Hinders (statement : Statement) (line : String) : Prop :=
  Starts (stem statement.text) line ∧ stem line ≠ stem statement.text ∨
    statement.addressed.map (fun port => (disable port).text) = some line

/-- No line is in the way of a statement that is set. A path that is deleted matches by its words the
candidates that start with it, and nothing that is committed or that they replace. -/
def Undisturbed (device : JunosDevice) (cmd : String) : Prop :=
  device.mode = "config" → (∀ statement ∈ readSet letters (commandText letters cmd),
      ∀ line ∈ device.candidate ++ device.committed, ¬ Hinders statement line) ∧
    ∀ path ∈ readDelete (commandText letters cmd),
      (∀ line ∈ device.candidate, (Starts path line ↔ words path <+: words line) ∧
        (Starts path line → ∀ other ∈ device.committed, stem other ≠ stem line)) ∧
      ∀ line ∈ device.committed, ¬ Starts path line ∧ ¬ words path <+: words line

instance (statement : Statement) (line : String) : Decidable (Hinders statement line) :=
  inferInstanceAs (Decidable (_ ∨ _))

instance (device : JunosDevice) (cmd : String) : Decidable (Undisturbed letters device cmd) :=
  inferInstanceAs (Decidable (_ → _))

end Condition

/-! ## Candidates over a configuration -/

def overlay (candidates config : List Statement) : List Statement :=
  (config.filter fun other => ∀ statement ∈ candidates, other.subject ≠ statement.subject) ++
    candidates

theorem overlay_nil (config : List Statement) : overlay [] config = config := by
  simp [overlay]

theorem put_overlay (statement : Statement) (candidates config : List Statement) :
    put statement (overlay candidates config) = overlay (put statement candidates) config := by
  have both : ∀ other : Statement, (other.subject ≠ statement.subject ∧
      ∀ candidate ∈ candidates, other.subject ≠ candidate.subject) ↔
        ∀ candidate ∈ put statement candidates, other.subject ≠ candidate.subject := by
    intro other
    constructor
    · rintro ⟨apart, free⟩ candidate inside
      rcases mem_put.mp inside with ⟨old, -⟩ | rfl
      · exact free candidate old
      · exact apart
    · intro free
      refine ⟨free statement (mem_put.mpr (.inr rfl)), fun candidate inside => ?_⟩
      by_cases same : candidate.subject = statement.subject
      · rw [same]
        exact free statement (mem_put.mpr (.inr rfl))
      · exact free candidate (mem_put.mpr (.inl ⟨inside, same⟩))
  unfold overlay
  rw [put, filter_append, List.filter_filter, append_assoc]
  refine congrArg₂ (· ++ ·) (filter_congr fun other _ => ?_) rfl
  rw [← Bool.decide_and]
  exact decide_eq_decide.mpr (both other)

theorem overlay_cons {statement : Statement} {candidates : List Statement}
    (apart : ∀ candidate ∈ candidates, statement.subject ≠ candidate.subject)
    (config : List Statement) :
    overlay (statement :: candidates) config = overlay candidates (put statement config) := by
  have kept : ([statement].filter fun other =>
      ∀ candidate ∈ candidates, other.subject ≠ candidate.subject) = [statement] :=
    filter_eq_self.mpr fun other inside => by
      rw [mem_singleton.mp inside]
      exact decide_eq_true apart
  unfold overlay
  rw [put, filter_append, List.filter_filter, kept, append_assoc, singleton_append]
  refine congrArg (· ++ statement :: candidates) (filter_congr fun other _ => ?_)
  rw [← Bool.decide_and]
  exact decide_eq_decide.mpr (forall_mem_cons.trans and_comm)

theorem remove_overlay {path : List String} {candidates config : List Statement}
    (clear : ∀ statement ∈ config, ¬ path <+: statement.words)
    (apart : ∀ candidate ∈ candidates, path <+: candidate.words →
      ∀ statement ∈ config, statement.subject ≠ candidate.subject) :
    remove path (overlay candidates config) = overlay (remove path candidates) config := by
  unfold overlay
  rw [remove, filter_append, List.filter_filter]
  refine congrArg (· ++ _) (filter_congr fun other inside => ?_)
  rw [← Bool.decide_and]
  refine decide_eq_decide.mpr ⟨?_, ?_⟩
  · rintro ⟨-, free⟩ candidate kept
    exact free candidate (mem_filter.mp kept).1
  · intro free
    refine ⟨clear other inside, fun candidate member => ?_⟩
    by_cases matched : path <+: candidate.words
    · exact apart candidate member matched other inside
    · exact free candidate (mem_filter.mpr ⟨member, by simpa using matched⟩)

/-! ## Lines of a configuration -/

section Filters

variable {letters : Letters} {statement : Statement} {config : List Statement}

/-- Lines that start with the stem of a statement are those about its subject, if none is in its
way. -/
theorem starts_stem_iff {other : Statement} (formed : statement.Formed letters)
    (formed' : other.Formed letters) (clear : ¬ Hinders statement other.text) :
    Starts (stem statement.text) other.text ↔ other.subject = statement.subject := by
  rw [← formed.stem_eq_iff formed']
  constructor
  · intro starts
    by_contra differs
    exact clear (.inl ⟨starts, differs⟩)
  · intro same
    rw [← same]
    exact formed'.starts_stem

theorem lines_put (formed : statement.Formed letters) (all : ∀ other ∈ config, other.Formed letters)
    (clear : ∀ other ∈ config, ¬ Hinders statement other.text) :
    ((config.map text).filter fun other => ¬ Starts (stem statement.text) other) ++
      [statement.text] = (put statement config).map text := by
  rw [put, map_append, List.filter_map]
  refine congrArg (List.map _ · ++ _) (filter_congr fun other inside => ?_)
  exact decide_eq_decide.mpr
    (not_congr (starts_stem_iff formed (all other inside) (clear other inside)))

theorem lines_remove {path : String} (all : ∀ other ∈ config, other.Formed letters)
    (exact : ∀ line ∈ config.map text, (Starts path line ↔ words path <+: words line)) :
    ((config.map text).filter fun line => ¬ Starts path line) =
      (remove (words path) config).map text := by
  rw [remove, List.filter_map]
  refine congrArg (List.map _) (filter_congr fun other inside => ?_)
  have same := exact other.text (mem_map_of_mem inside)
  rw [(all other inside).words_text] at same
  exact decide_eq_decide.mpr (not_congr same)

end Filters

/-! ## Committing one line -/

section Commits

variable {letters : Letters} {base device : JunosDevice}

section

variable {statement : Statement} {config : List Statement}
  (effective : Effective letters base device config) (formed : statement.Formed letters)
include effective formed

theorem interfaces_commitLine
    (enabled : ∀ port, statement.addressed = some port → .disable port ∉ config) (port : String) :
    (device.commitLine letters statement.text).interfaces.lookup port =
      (base.interfaces.lookup port).map fun old =>
        portState letters old port (put statement config) := by
  have other : statement.addressed ≠ some port → statement ≠ .disable port →
      device.interfaces.lookup port = (base.interfaces.lookup port).map fun old =>
        portState letters old port (put statement config) := by
    intro address disable
    rw [effective.interfaces]
    exact map_congr fun old _ => (portState_put_other letters old port config address disable).symm
  unfold JunosDevice.commitLine
  rw [formed.read]
  cases statement with
  | address named unit ip length =>
    dsimp only
    rw [OrderedMap.lookup_modify]
    split
    case isTrue same =>
        subst same
        rw [effective.interfaces, Option.map_map]
        exact map_congr fun old _ =>
          (portState_put_address letters old port config (enabled port rfl)).symm
    case isFalse apart => exact other (fun same => apart (Option.some.inj same).symm) (by rintro ⟨⟩)
  | disable named =>
    dsimp only
    rw [OrderedMap.lookup_modify]
    split
    case isTrue same =>
        subst same
        rw [effective.interfaces, Option.map_map]
        exact map_congr fun old _ => (portState_put_disable letters old port config).symm
    case isFalse apart =>
        exact other (by rintro ⟨⟩) fun same => apart (disable.inj same).symm
  | _ => exact other (by rintro ⟨⟩) (by rintro ⟨⟩)

theorem effective_commitLine
    (enabled : ∀ port, statement.addressed = some port → .disable port ∉ config) :
    Effective letters base (device.commitLine letters statement.text) (put statement config) := by
  refine ⟨interfaces_commitLine effective formed enabled, ?_, ?_, ?_⟩
  all_goals
    unfold JunosDevice.commitLine
    rw [formed.read]
  · cases statement with
    | hostName name =>
      have tells : namesHost (.hostName name) = some name := rfl
      rw [getLast?_put tells]
      rfl
    | _ =>
      rw [filterMap_put fun other same => by cases other <;> first | rfl | cases same]
      exact effective.hostname
  · rw [decide_put_flag config fun same => by cases statement <;> cases same; rfl,
      ← Bool.or_assoc, ← effective.sshRsaKey]
    cases statement with
    | ssh => simp
    | _ => simp
  · rw [decide_put_flag config fun same => by cases statement <;> cases same; rfl,
      ← Bool.or_assoc, ← effective.netconfEnabled]
    cases statement with
    | netconfSsh => simp
    | _ => simp

end

theorem committed_commitLine (device : JunosDevice) (line : String) :
    (device.commitLine letters line).committed =
      (device.committed.filter fun other => ¬ Starts (stem line) other) ++ [line] := by
  unfold JunosDevice.commitLine
  dsimp only
  split <;> rfl

theorem commit_lines {candidates config : List Statement}
    (committed : device.committed = config.map text)
    (effective : Effective letters base device config)
    (formed : ∀ statement ∈ candidates ++ config, statement.Formed letters)
    (ordered : candidates.Pairwise fun earlier later =>
      earlier.subject ≠ later.subject ∧ ¬ Hinders later earlier.text)
    (clear : ∀ candidate ∈ candidates, ∀ statement ∈ config, ¬ Hinders candidate statement.text) :
    let next := (candidates.map text).foldl
      (fun device line => device.commitLine letters line) device
    next.committed = (overlay candidates config).map text ∧
      Effective letters base next (overlay candidates config) := by
  induction candidates generalizing device config with
  | nil =>
    rw [overlay_nil]
    exact ⟨committed, effective⟩
  | cons first later ih =>
    have here : first.Formed letters := formed first (by simp)
    have old : ∀ statement ∈ config, statement.Formed letters := fun statement inside =>
      formed statement (mem_append_right _ inside)
    have free := clear first mem_cons_self
    obtain ⟨apart, ordered⟩ := pairwise_cons.mp ordered
    rw [overlay_cons fun candidate inside => (apart candidate inside).1, map_cons, foldl_cons]
    refine ih ?_ ?_ ?_ ordered ?_
    · rw [committed_commitLine, committed]
      exact lines_put here old free
    · refine effective_commitLine effective here fun port address disabled => free _ disabled ?_
      exact .inr (by rw [address]; rfl)
    · intro statement inside
      rcases mem_append.mp inside with candidate | put
      · exact formed statement (mem_append_left _ (mem_cons_of_mem _ candidate))
      · rcases mem_put.mp put with ⟨kept, -⟩ | rfl
        · exact old statement kept
        · exact here
    · intro candidate member statement inside
      rcases mem_put.mp inside with ⟨kept, -⟩ | rfl
      · exact clear candidate (mem_cons_of_mem _ member) statement kept
      · exact (apart candidate member).2

end Commits

/-! ## The reference -/

/-- A device that keeps to the reference: its candidates stand over the active configuration as the
draft does, and nothing is in their way. -/
structure Matches (letters : Letters) (base device : JunosDevice) (reference : Reference)
    (candidates : List Statement) : Prop where
  mode : device.mode = "config" ↔ reference.editing = true
  candidate : device.candidate = candidates.map text
  committed : device.committed = reference.active.map text
  draft : reference.draft = overlay candidates reference.active
  formed : ∀ statement ∈ candidates ++ reference.active, statement.Formed letters
  ordered : candidates.Pairwise fun earlier later =>
    earlier.subject ≠ later.subject ∧ ¬ Hinders later earlier.text
  clear : ∀ candidate ∈ candidates, ∀ statement ∈ reference.active,
    ¬ Hinders candidate statement.text
  effective : Effective letters base device reference.active

namespace Matches

variable {letters : Letters} {base device : JunosDevice} {reference : Reference}
  {candidates : List Statement}

theorem move (held : Matches letters base device reference candidates) {mode : String}
    {editing : Bool} (same : mode = "config" ↔ editing = true) :
    Matches letters base { device with mode := mode } { reference with editing := editing }
      candidates where
  mode := same
  candidate := held.candidate
  committed := held.committed
  draft := held.draft
  formed := held.formed
  ordered := held.ordered
  clear := held.clear
  effective := ⟨held.effective.interfaces, held.effective.hostname, held.effective.sshRsaKey,
    held.effective.netconfEnabled⟩

theorem rollback (held : Matches letters base device reference candidates) :
    Matches letters base { device with candidate := [] }
      { reference with draft := reference.active } [] where
  mode := held.mode
  candidate := rfl
  committed := held.committed
  draft := (overlay_nil _).symm
  formed := fun statement inside => held.formed statement (mem_append_right _ inside)
  ordered := List.Pairwise.nil
  clear := nofun
  effective := ⟨held.effective.interfaces, held.effective.hostname, held.effective.sshRsaKey,
    held.effective.netconfEnabled⟩

theorem commit (held : Matches letters base device reference candidates) {mode : String}
    {editing : Bool} (same : mode = "config" ↔ editing = true) :
    Matches letters base { device.applyCommit letters with mode := mode }
      { reference with active := reference.draft, editing := editing } [] := by
  obtain ⟨committed, effective⟩ :=
    commit_lines held.committed held.effective held.formed held.ordered held.clear
  rw [← held.candidate, ← held.draft] at committed effective
  constructor
  · exact same
  · rfl
  · exact committed
  · exact (overlay_nil _).symm
  · intro statement inside
    rw [nil_append, held.draft] at inside
    rcases mem_append.mp inside with kept | candidate
    · exact held.formed statement (mem_append_right _ (mem_filter.mp kept).1)
    · exact held.formed statement (mem_append_left _ candidate)
  · exact List.Pairwise.nil
  · exact nofun
  · exact ⟨effective.interfaces, effective.hostname, effective.sshRsaKey, effective.netconfEnabled⟩

theorem stage (held : Matches letters base device reference candidates) {statement : Statement}
    (formed : statement.Formed letters)
    (free : ∀ line ∈ device.candidate ++ device.committed, ¬ Hinders statement line) :
    Matches letters base (device.stage statement.text)
      { reference with draft := put statement reference.draft } (put statement candidates) := by
  have clear : ∀ other ∈ candidates ++ reference.active, ¬ Hinders statement other.text := by
    intro other inside
    refine free other.text ?_
    rw [held.candidate, held.committed, ← map_append]
    exact mem_map_of_mem inside
  constructor
  · exact held.mode
  · unfold JunosDevice.stage
    rw [held.candidate]
    exact lines_put formed (fun other inside => held.formed other (mem_append_left _ inside))
      fun other inside => clear other (mem_append_left _ inside)
  · exact held.committed
  · rw [held.draft, put_overlay]
  · intro other inside
    rcases mem_append.mp inside with candidate | active
    · rcases mem_put.mp candidate with ⟨kept, -⟩ | rfl
      · exact held.formed other (mem_append_left _ kept)
      · exact formed
    · exact held.formed other (mem_append_right _ active)
  · refine pairwise_append.mpr ⟨held.ordered.filter _, pairwise_singleton _ _, ?_⟩
    intro earlier inside later last
    obtain ⟨member, apart⟩ := mem_filter.mp inside
    rw [mem_singleton.mp last]
    exact ⟨of_decide_eq_true apart, clear earlier (mem_append_left _ member)⟩
  · intro candidate inside other active
    rcases mem_put.mp inside with ⟨kept, -⟩ | rfl
    · exact held.clear candidate kept other active
    · exact clear other (mem_append_right _ active)
  · exact ⟨held.effective.interfaces, held.effective.hostname, held.effective.sshRsaKey,
      held.effective.netconfEnabled⟩

theorem delete (held : Matches letters base device reference candidates) {path : String}
    (exact : ∀ line ∈ device.candidate, (Starts path line ↔ words path <+: words line) ∧
      (Starts path line → ∀ other ∈ device.committed, stem other ≠ stem line))
    (spared : ∀ line ∈ device.committed, ¬ Starts path line ∧ ¬ words path <+: words line) :
    Matches letters base (device.delete path)
      { reference with draft := remove (words path) reference.draft }
      (remove (words path) candidates) := by
  have formed : ∀ candidate ∈ candidates, candidate.Formed letters := fun candidate inside =>
    held.formed candidate (mem_append_left _ inside)
  have active : ∀ statement ∈ reference.active, statement.Formed letters := fun statement inside =>
    held.formed statement (mem_append_right _ inside)
  have clear : ∀ statement ∈ reference.active, ¬ words path <+: statement.words := by
    intro statement inside
    rw [← (active statement inside).words_text]
    refine (spared statement.text ?_).2
    rw [held.committed]
    exact mem_map_of_mem inside
  rw [held.candidate, held.committed] at exact
  constructor
  · exact held.mode
  · unfold JunosDevice.delete
    rw [held.candidate]
    exact lines_remove formed fun line inside => (exact line inside).1
  · unfold JunosDevice.delete
    rw [← held.committed]
    exact filter_eq_self.mpr fun line inside => decide_eq_true (spared line inside).1
  · rw [held.draft]
    refine remove_overlay clear fun candidate inside matched statement member same => ?_
    obtain ⟨iff, apart⟩ := exact candidate.text (mem_map_of_mem inside)
    rw [(formed candidate inside).words_text] at iff
    exact apart (iff.mpr matched) statement.text (mem_map_of_mem member)
      (((formed candidate inside).stem_eq_iff (active statement member)).mpr same)
  · intro statement inside
    rcases mem_append.mp inside with candidate | member
    · exact formed statement (mem_filter.mp candidate).1
    · exact active statement member
  · exact held.ordered.filter _
  · exact fun candidate inside => held.clear candidate (mem_filter.mp inside).1
  · exact ⟨held.effective.interfaces, held.effective.hostname, held.effective.sshRsaKey,
      held.effective.netconfEnabled⟩

end Matches

/-! ## Steps -/

section Steps

variable {letters : Letters} {showLldp : JunosDevice → String} {base device : JunosDevice}
  {reference : Reference} {candidates : List Statement} {cmd : String}

theorem step_stage {statement : Statement} (editing : device.mode = "config")
    (asked : readSet letters (commandText letters cmd) = some statement) :
    device.step letters showLldp cmd = device.stage statement.text := by
  have other : ∀ text, readSet letters text = none → commandText letters cmd ≠ text := by
    rintro text none rfl
    rw [none] at asked
    cases asked
  have shape := words_of_readSet asked
  have second : ∀ later, statement.words ≠ "cli" :: later := by
    intro later same
    cases statement <;> exact absurd (List.cons.inj same).1 (by decide)
  refine @step_of_configure letters showLldp device cmd ("", _) editing ?_ ?_ ?_
  · simp only [moves, mem_cons, not_mem_nil, or_false, not_or]
    exact ⟨other _ rfl, other _ rfl, other _ rfl, other _ rfl, other _ rfl, other _ rfl⟩
  · unfold terminalReply
    split
    case h_1 width same =>
        rw [shape] at same
        exact absurd (List.cons.inj same).2 (second _)
    case h_2 length same =>
        rw [shape] at same
        exact absurd (List.cons.inj same).2 (second _)
    case h_3 => rw [if_neg (other _ rfl), if_neg (other _ rfl)]
  · have kept : commandText letters cmd ∉ ["rollback", "rollback 0"] := by
      simp only [mem_cons, not_mem_nil, or_false, not_or]
      exact ⟨other _ rfl, other _ rfl⟩
    rw [JunosDevice.configure, if_neg (other _ rfl), if_neg (other _ rfl), if_neg (other _ rfl),
      if_neg kept, asked]
    rfl

theorem step_of_other (configure : ¬ IsConfigure letters cmd) (leave : ¬ IsLeave letters cmd)
    (edits : device.mode = "config" → ¬ IsCommit letters cmd ∧ ¬ IsRollback letters cmd ∧
      readSet letters (commandText letters cmd) = none ∧
      readDelete (commandText letters cmd) = none) :
    device.step letters showLldp cmd = device := by
  have effect := @effect_step letters showLldp device cmd
  generalize device.step letters showLldp cmd = next at effect ⊢
  cases effect with
  | nothing => rfl
  | enter asked => exact absurd asked configure
  | leave asked => exact absurd asked leave
  | commit mode asked editing => exact absurd asked (edits editing).1
  | rollback asked editing => exact absurd asked (edits editing).2.1
  | stage statement asked editing =>
    rw [(edits editing).2.2.1] at asked
    cases asked
  | delete path asked editing =>
    rw [(edits editing).2.2.2] at asked
    cases asked

theorem matches_step (held : Matches letters base device reference candidates)
    (undisturbed : Undisturbed letters device cmd) :
    ∃ next, Matches letters base (device.step letters showLldp cmd)
      (reference.step letters cmd) next := by
  unfold Reference.step
  split
  case isTrue asked =>
      rw [step_enter asked]
      exact ⟨candidates, held.move (by simp)⟩
  case isFalse configure =>
      split
      case isTrue asked =>
          by_cases editing : device.mode = "config"
          · rw [step_leave editing asked]
            exact ⟨candidates, held.move (by simp)⟩
          · have effect := @effect_step letters showLldp device cmd
            generalize device.step letters showLldp cmd = next at effect ⊢
            have still : Matches letters base { device with mode := device.mode }
                { reference with editing := false } candidates := held.move (by simp [editing])
            cases effect with
            | nothing => exact ⟨candidates, still⟩
            | enter asked => exact absurd asked configure
            | leave => exact ⟨candidates, held.move (by simp)⟩
            | commit mode _ busy => exact absurd busy editing
            | rollback _ busy => exact absurd busy editing
            | stage statement _ busy => exact absurd busy editing
            | delete path _ busy => exact absurd busy editing
      case isFalse leave =>
          split
          case isTrue idle =>
              have away : device.mode ≠ "config" := fun editing => by
                rw [held.mode.mp editing] at idle
                cases idle
              rw [step_of_other configure leave fun editing => absurd editing away]
              exact ⟨candidates, held⟩
          case isFalse busy =>
              have editing : device.mode = "config" := held.mode.mpr (by simpa using busy)
              obtain ⟨setting, deleting⟩ := undisturbed editing
              split
              case isTrue asked =>
                  rw [step_commit editing asked]
                  refine ⟨[], held.commit ?_⟩
                  by_cases stays : commandText letters cmd = "commit" <;> simp [stays]
              case isFalse commit =>
                  split
                  case isTrue asked =>
                      rw [step_rollback editing asked]
                      exact ⟨[], held.rollback⟩
                  case isFalse rollback =>
                      split
                      case h_1 statement asked =>
                          rw [step_stage editing asked]
                          exact ⟨_, held.stage (formed_of_readSet asked) (setting statement asked)⟩
                      case h_2 path _ asked =>
                          rw [step_delete editing asked]
                          obtain ⟨exact, spared⟩ := deleting path asked
                          exact ⟨_, held.delete exact spared⟩
                      case h_3 unset undeleted =>
                          rw [step_of_other configure leave fun _ =>
                            ⟨commit, rollback, unset, undeleted⟩]
                          exact ⟨candidates, held⟩

end Steps

/-! ## Exact commits -/

section Exactness

variable (letters : Letters) (showLldp : JunosDevice → String)

/-- After every commit the committed lines are those of the reference's active configuration, and what
is in effect is what it makes of the device. -/
def CommitsExactly (base : JunosDevice) (commands : List String) : Prop :=
  ∀ front commit back, commands = front ++ commit :: back → IsCommit letters commit →
    (runFrom (JunosDevice.step letters showLldp) base front).mode = "config" →
      let device := runFrom (JunosDevice.step letters showLldp) base (front ++ [commit])
      let reference := runFrom (Reference.step letters) {} (front ++ [commit])
      device.committed = reference.active.map text ∧ Effective letters base device reference.active

end Exactness

/-- A device that nothing is configured on. -/
def newDevice (hostname : String) (interfaces : OrderedMap String Interface) : JunosDevice where
  hostname := hostname
  interfaces := interfaces

theorem matches_newDevice (letters : Letters) (hostname : String)
    (interfaces : OrderedMap String Interface) :
    Matches letters (newDevice hostname interfaces) (newDevice hostname interfaces) {} [] where
  mode := by simp [newDevice]
  candidate := rfl
  committed := rfl
  draft := rfl
  formed := nofun
  ordered := List.Pairwise.nil
  clear := nofun
  effective := by
    refine ⟨fun port => ?_, rfl, rfl, rfl⟩
    change interfaces.lookup port = (interfaces.lookup port).map fun old => old
    exact map_id'.symm

theorem matches_run {letters : Letters} {showLldp : JunosDevice → String} {base device : JunosDevice}
    {reference : Reference} {candidates : List Statement} {commands : List String}
    (held : Matches letters base device reference candidates)
    (undisturbed : Along (JunosDevice.step letters showLldp) (Undisturbed letters) device commands) :
    ∃ next, Matches letters base (runFrom (JunosDevice.step letters showLldp) device commands)
      (runFrom (Reference.step letters) reference commands) next := by
  induction commands generalizing device reference candidates with
  | nil => exact ⟨candidates, held⟩
  | cons cmd later ih =>
    obtain ⟨next, after⟩ := matches_step held undisturbed.1
    exact ih after undisturbed.2

/-- Commits are exact if nothing is in the way of the statements that are set, and what is deleted is
not committed yet. -/
theorem commits_exactly (letters : Letters) (showLldp : JunosDevice → String) (hostname : String)
    (interfaces : OrderedMap String Interface) (commands : List String)
    (undisturbed : Along (JunosDevice.step letters showLldp) (Undisturbed letters)
      (newDevice hostname interfaces) commands) :
    CommitsExactly letters showLldp (newDevice hostname interfaces) commands := by
  rintro front commit back rfl asked editing device reference
  have here : Along (JunosDevice.step letters showLldp) (Undisturbed letters)
      (newDevice hostname interfaces) (front ++ [commit]) := by
    have shape : front ++ commit :: back = (front ++ [commit]) ++ back := by simp
    rw [shape] at undisturbed
    exact (along_append.mp undisturbed).1
  obtain ⟨candidates, held⟩ := matches_run (matches_newDevice letters hostname interfaces) here
  exact ⟨held.committed, held.effective⟩

/-- Two ports whose names start alike. -/
def twoPorts : OrderedMap String Interface :=
  ((OrderedMap.empty.insert "ge-0/0/1" ⟨"", 0, "down"⟩).insert "ge-0/0/10" ⟨"", 0, "down"⟩)

/-- Statements that are not in each other's way, in the order in which they are set. -/
def orderedCommands : List String :=
  ["configure", "set system services ssh", "set system services netconf ssh",
    "set interfaces ge-0/0/1 disable", "commit"]

theorem orderedCommands_exact : CommitsExactly plainLetters (fun _ => "")
    (newDevice "vsrx" twoPorts) orderedCommands :=
  commits_exactly plainLetters (fun _ => "") "vsrx" twoPorts orderedCommands (by decide)

/-- The service of another protocol is lost when the first is set after it. -/
theorem service_lost : ¬ CommitsExactly plainLetters (fun _ => "") (newDevice "vsrx" twoPorts)
    ["configure", "set system services netconf ssh", "set system services ssh", "commit"] := by
  intro exactly
  have lines := (exactly ["configure", "set system services netconf ssh", "set system services ssh"]
    "commit" [] rfl (by decide) (by decide)).1
  revert lines
  decide

end NetLab.Junos
