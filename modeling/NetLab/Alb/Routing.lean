import NetLab.Alb.Listeners
import NetLab.Library.Words

/-!
# Routing by the current configuration

The store gets a new object when a listener is created again, while its proxy keeps the old one and
the rules keep its name. `follows_throughout` says that routing follows the configuration as long as
this does not happen and no value of a condition is lost.
-/

namespace NetLab.Alb

open NetLab.Library NetLab.Cli NetLab.Execution
open OrderedMap List Option

/-! ## Conditions as they are entered -/

section Entered

def Agree (pairs : OrderedMap String String) (entered : OrderedMap String (List String)) : Prop :=
  ∀ key, entered.lookup key = (pairs.lookup key).map fun value => [value]

theorem agree_fold {parts : List (List Char)} (keyed : ∀ part ∈ parts, keyValue part ≠ none)
    {pairs : OrderedMap String String} {state : OrderedMap String (List String) × Option String}
    (agree : Agree pairs state.1) :
    Agree (parts.foldl (fun pairs part =>
        match keyValue part with
        | some (key, value) => pairs.insert key value
        | none => pairs) pairs)
      (parts.foldl (fun state part =>
        match keyValue part, state.2 with
        | some (key, value), _ => (state.1.insert key [value], some key)
        | none, some key =>
          (state.1.modify key fun values => values ++ [String.ofList part], some key)
        | none, none => state) state).1 := by
  induction parts generalizing pairs state with
  | nil => exact agree
  | cons part later ih =>
    rw [foldl_cons, foldl_cons]
    cases found : keyValue part with
    | none => exact absurd found (keyed part mem_cons_self)
    | some pair =>
      refine ih (fun part inside => keyed part (mem_cons_of_mem _ inside)) ?_
      intro key
      rw [lookup_insert, lookup_insert]
      split
      case isTrue => rfl
      case isFalse => exact agree key

theorem agree_spec {spec : String} (keyed : ∀ part ∈ specParts spec, keyValue part ≠ none) :
    Agree (albKv spec) (enteredValues spec) :=
  agree_fold keyed fun _ => rfl

theorem comma_notMem_albKv {spec key value : String} (found : (albKv spec).lookup key = some value) :
    ',' ∉ value.toList := by
  have parts : ∀ part ∈ specParts spec, ',' ∉ part := by
    intro part inside comma
    rw [specParts, splitOn_eq_splitOnP] at inside
    exact absurd (unmarked_of_mem_splitOnP inside ',' comma) (by decide)
  have values : ∀ (parts : List (List Char)) (pairs : OrderedMap String String),
      (∀ part ∈ parts, ',' ∉ part) →
      (∀ key value, pairs.lookup key = some value → ',' ∉ value.toList) →
      ∀ key value, (parts.foldl (fun pairs part =>
        match keyValue part with
        | some (key, value) => pairs.insert key value
        | none => pairs) pairs).lookup key = some value → ',' ∉ value.toList := by
    intro parts
    induction parts with
    | nil => exact fun _ _ held => held
    | cons part later ih =>
      intro pairs free held
      refine ih _ (fun part inside => free part (mem_cons_of_mem _ inside)) ?_
      dsimp only
      cases found : keyValue part with
      | none => exact held
      | some pair =>
        intro key value lookup
        rw [lookup_insert] at lookup
        split at lookup
        case isFalse => exact held key value lookup
        case isTrue =>
            cases lookup
            unfold keyValue at found
            split at found
            case h_1 => cases found
            case h_2 mark tail shape =>
                cases found
                rw [String.toList_ofList]
                intro comma
                refine free part mem_cons_self ?_
                have behind : tail <:+ part :=
                  (suffix_cons mark tail).trans (shape ▸ dropWhile_suffix _)
                exact behind.subset comma
  exact values (specParts spec) .empty parts (fun key value none => by cases none) key value found

theorem readCondition_eq {spec : String} (keyed : ∀ part ∈ specParts spec, keyValue part ≠ none) :
    AlbDevice.readCondition spec = enteredCondition spec := by
  have agree := agree_spec keyed
  unfold AlbDevice.readCondition enteredCondition
  dsimp only
  rw [agree, agree]
  cases field : (albKv spec).lookup "Field" with
  | none => rfl
  | some name =>
    by_cases unnamed : name = ""
    · exact (if_pos unnamed).trans (if_pos unnamed).symm
    · refine (if_neg unnamed).trans (Eq.trans ?_ (if_neg unnamed).symm)
      refine congrArg (fun values => some (Condition.mk name values)) ?_
      cases values : (albKv spec).lookup "Values" with
      | none => rfl
      | some value =>
        have single : (value.toList.splitOn ',').map (fun value => strip (String.ofList value)) =
            [strip value] := by
          rw [splitOn_eq_singleton (comma_notMem_albKv values), map_cons, map_nil,
            String.ofList_toList]
        by_cases empty : value = ""
        · rw [empty]
          rfl
        · refine ((if_neg empty).trans single).trans (if_neg ?_).symm
          exact fun same => empty (List.cons.inj same).1

end Entered

/-! ## What a command does -/

/-- The parts of a device that routing depends on. -/
structure SameRouting (device next : AlbDevice) : Prop where
  objects : next.objects = device.objects
  listeners : next.listeners = device.listeners
  rules : next.rules = device.rules

section Commands

variable {texts : Texts} {device : AlbDevice}

theorem SameRouting.refl : SameRouting device device := ⟨rfl, rfl, rfl⟩

variable (arguments : Arguments)

theorem sameRouting_registerTargets :
    SameRouting device (device.registerTargets texts arguments).2 := by
  unfold AlbDevice.registerTargets
  dsimp only
  split
  case h_1 => exact .refl
  case h_2 =>
      split
      case h_1 => exact .refl
      case h_2 => exact ⟨rfl, rfl, rfl⟩

theorem sameRouting_deregisterTargets :
    SameRouting device (device.deregisterTargets texts arguments).2 := by
  unfold AlbDevice.deregisterTargets
  dsimp only
  split
  case h_1 => exact .refl
  case h_2 =>
      split
      case h_1 => exact .refl
      case h_2 => exact ⟨rfl, rfl, rfl⟩

theorem sameRouting_modifyAttributes :
    SameRouting device (device.modifyAttributes texts arguments).2 := by
  unfold AlbDevice.modifyAttributes
  dsimp only
  split
  case h_1 => exact .refl
  case h_2 =>
      split
      case h_1 => exact .refl
      case h_2 => exact ⟨rfl, rfl, rfl⟩

theorem sameRouting_createTargetGroup :
    SameRouting device (device.createTargetGroup texts arguments).2 := by
  unfold AlbDevice.createTargetGroup
  dsimp only
  split
  case h_1 => exact .refl
  case h_2 => exact ⟨rfl, rfl, rfl⟩

/-- Ways in which a command changes what routing depends on. -/
inductive RoutingEffect (texts : Texts) (device : AlbDevice) (cmd : String) : AlbDevice → Prop where
  | same {next : AlbDevice} (same : SameRouting device next)
      (none : enteredRule texts device cmd = none) : RoutingEffect texts device cmd next
  | listener {arguments : Arguments} (asks : asked texts cmd = some ("create-listener", arguments))
      {arn : String} {listener : Listener}
      (created : device.newListener texts arguments = .ok (arn, listener))
      (none : enteredRule texts device cmd = none) :
      RoutingEffect texts device cmd (device.createListener texts arguments).2
  | rule {arguments : Arguments} (asks : asked texts cmd = some ("create-rule", arguments))
      {arn : String} {rule : Rule} (created : device.newRule texts arguments = .ok (arn, rule))
      (entered : enteredRule texts device cmd =
        some (arn, (arguments.all "conditions").filterMap enteredCondition)) :
      RoutingEffect texts device cmd (device.createRule texts arguments).2

section

variable {cmd sub : String} {arguments : Arguments} (asks : asked texts cmd = some (sub, arguments))
include asks

theorem enteredRule_of_asked (other : sub ≠ "create-rule") :
    enteredRule texts device cmd = none := by
  rw [enteredRule, asks]
  exact if_neg other

theorem effect_handle : RoutingEffect texts device cmd (device.handle texts sub arguments).2 := by
  unfold AlbDevice.handle
  split
  case isTrue same =>
      exact .same ⟨rfl, rfl, rfl⟩ (enteredRule_of_asked asks (by rw [same]; decide))
  case isFalse =>
  split
  case isTrue same =>
      exact .same (sameRouting_createTargetGroup arguments)
        (enteredRule_of_asked asks (by rw [same]; decide))
  case isFalse =>
  split
  case isTrue same =>
      exact .same (sameRouting_registerTargets arguments)
        (enteredRule_of_asked asks (by rw [same]; decide))
  case isFalse =>
  split
  case isTrue same =>
      exact .same (sameRouting_deregisterTargets arguments)
        (enteredRule_of_asked asks (by rw [same]; decide))
  case isFalse =>
  split
  case isTrue same =>
      have none : enteredRule texts device cmd = Option.none :=
        enteredRule_of_asked asks (by rw [same]; decide)
      cases created : device.newListener texts arguments with
      | error reply =>
        rw [AlbDevice.createListener, created]
        exact .same .refl none
      | ok pair => exact .listener (same ▸ asks) created none
  case isFalse =>
  split
  case isTrue same =>
      cases created : device.newRule texts arguments with
      | error reply =>
        rw [AlbDevice.createRule, created]
        exact .same .refl (by simp [enteredRule, asks, same, created])
      | ok pair => exact .rule (same ▸ asks) created (by simp [enteredRule, asks, same, created])
  case isFalse other =>
  have none := @enteredRule_of_asked texts device cmd sub arguments asks other
  split
  case isTrue => exact .same .refl none
  case isFalse =>
  split
  case isTrue => exact .same (sameRouting_modifyAttributes arguments) none
  case isFalse => split <;> exact .same .refl none

end

theorem effect_albProcess (device : AlbDevice) (cmd : String) :
    RoutingEffect texts device cmd (device.albProcess texts cmd).2 := by
  have quiet : asked texts cmd = none → enteredRule texts device cmd = none := by
    intro silent
    rw [enteredRule, silent]
  unfold AlbDevice.albProcess
  dsimp only
  split
  case isTrue idle => exact .same .refl (quiet (if_pos idle))
  case isFalse busy =>
      split
      case h_1 unread =>
          refine .same .refl (quiet ?_)
          rw [asked, if_neg busy, unread]
      case h_2 failed =>
          refine .same .refl (quiet ?_)
          rw [asked, if_neg busy, failed]
      case h_3 sub arguments read =>
          refine effect_handle ?_
          rw [asked, if_neg busy, read]

end Commands

/-! ## What is true between the commands -/

/-- Names and objects of listeners, rules and proxies fit together. -/
structure Coherent (system : System) : Prop where
  objects : ∀ arn object, system.device.listeners.lookup arn = some object →
    object < system.device.objects.length
  distinct : ∀ arn other object, system.device.listeners.lookup arn = some object →
    system.device.listeners.lookup other = some object → arn = other
  lists : ∀ arn listener, system.device.listener arn = some listener →
    listener.rules.Nodup ∧ ∀ ruleArn, ruleArn ∈ listener.rules ↔
      ∃ rule, system.device.rules.lookup ruleArn = some rule ∧ rule.listenerArn = arn
  known : ∀ ruleArn rule, system.device.rules.lookup ruleArn = some rule →
    (∃ object, system.device.listeners.lookup rule.listenerArn = some object) ∧
      rule.conditions ≠ [] ∧ system.entered.lookup ruleArn = some rule.conditions
  proxies : ∀ arn proxy, system.proxies.lookup arn = some proxy →
    system.device.listeners.lookup arn = some proxy.object

section Keeping

variable {texts : Texts} {system : System}

/-- A command that leaves what routing depends on leaves the rest, too. -/
theorem Coherent.same (coherent : Coherent system) {next : AlbDevice}
    (same : SameRouting system.device next) : Coherent { system with device := next } := by
  have listener : ∀ arn, next.listener arn = system.device.listener arn := by
    intro arn
    rw [AlbDevice.listener, AlbDevice.listener, same.objects, same.listeners]
  constructor
  · intro arn object found
    dsimp only at found ⊢
    rw [same.listeners] at found
    rw [same.objects]
    exact coherent.objects arn object found
  · intro arn other object found found'
    dsimp only at found found'
    rw [same.listeners] at found found'
    exact coherent.distinct arn other object found found'
  · intro arn known found
    dsimp only at found ⊢
    rw [listener] at found
    rw [same.rules]
    exact coherent.lists arn known found
  · intro ruleArn rule found
    dsimp only at found ⊢
    rw [same.rules] at found
    rw [same.listeners]
    exact coherent.known ruleArn rule found
  · intro arn proxy found
    dsimp only at found ⊢
    rw [same.listeners]
    exact coherent.proxies arn proxy found

variable {arguments : Arguments} {arn : String} {device : AlbDevice}

theorem rules_newListener {listener : Listener}
    (created : device.newListener texts arguments = .ok (arn, listener)) : listener.rules = [] := by
  unfold AlbDevice.newListener at created
  dsimp only at created
  split at created
  case h_1 => cases created
  case h_2 =>
      split at created
      case h_1 => cases created
      case h_2 =>
          cases created
          rfl

theorem Coherent.listener (coherent : Coherent system) {listener : Listener}
    (created : system.device.newListener texts arguments = .ok (arn, listener))
    (stopped : system.proxies.lookup arn = none)
    (unnamed : ∀ ruleArn rule, system.device.rules.lookup ruleArn = some rule →
      rule.listenerArn ≠ arn) :
    Coherent { system with device := (system.device.createListener texts arguments).2 } := by
  have bare := rules_newListener created
  rw [AlbDevice.createListener, created]
  constructor
  · intro other object found
    dsimp only at found ⊢
    rw [length_append, length_singleton]
    rw [lookup_insert] at found
    split at found
    case isTrue =>
        cases found
        exact Nat.lt_succ_self _
    case isFalse => exact Nat.lt_succ_of_lt (coherent.objects other object found)
  · intro other third object found found'
    dsimp only at found found'
    rw [lookup_insert] at found found'
    split at found
    case isTrue same =>
        split at found'
        case isTrue same' => rw [same, same']
        case isFalse =>
            cases found
            exact absurd (coherent.objects third _ found') (lt_irrefl _)
    case isFalse =>
        split at found'
        case isTrue =>
            cases found'
            exact absurd (coherent.objects other _ found) (lt_irrefl _)
        case isFalse => exact coherent.distinct other third object found found'
  · intro other known found
    dsimp only [AlbDevice.listener] at found ⊢
    rw [lookup_insert] at found
    split at found
    case isTrue same =>
        rw [bind_some, getElem?_concat_length] at found
        cases found
        rw [bare]
        refine ⟨nodup_nil, fun ruleArn => ⟨fun inside => absurd inside not_mem_nil, ?_⟩⟩
        rintro ⟨rule, stored, names⟩
        exact absurd (names.trans same) (unnamed ruleArn rule stored)
    case isFalse =>
        refine coherent.lists other known ?_
        rw [AlbDevice.listener]
        cases old : system.device.listeners.lookup other with
        | none =>
          rw [old] at found
          cases found
        | some object =>
          rw [old] at found
          exact (getElem?_append_left (coherent.objects other object old)).symm.trans found
  · intro ruleArn rule stored
    obtain ⟨⟨object, listed⟩, rest⟩ := coherent.known ruleArn rule stored
    refine ⟨⟨object, ?_⟩, rest⟩
    dsimp only
    rw [lookup_insert_of_ne _ _ (unnamed ruleArn rule stored)]
    exact listed
  · intro other proxy found
    have running : other ≠ arn := by
      rintro rfl
      rw [stopped] at found
      cases found
    dsimp only
    rw [lookup_insert_of_ne _ _ running]
    exact coherent.proxies other proxy found

theorem newRule_known {rule : Rule} (created : device.newRule texts arguments = .ok (arn, rule)) :
    (∃ object, device.listeners.lookup rule.listenerArn = some object) ∧
      rule.conditions = (arguments.all "conditions").filterMap AlbDevice.readCondition := by
  unfold AlbDevice.newRule at created
  dsimp only at created
  split at created
  case isTrue => cases created
  case isFalse known =>
      split at created
      case h_1 => cases created
      case h_2 =>
          cases created
          refine ⟨?_, rfl⟩
          dsimp only
          cases found : device.listeners.lookup (arguments.first "listener-arn" "") with
          | none => exact absurd (lookup_eq_none_iff.mp found) known
          | some object => exact ⟨object, rfl⟩

theorem mem_list {listener : Listener} {ruleArn : String} :
    ruleArn ∈ (AlbDevice.Listener.list listener arn).rules ↔
      ruleArn ∈ listener.rules ∨ ruleArn = arn := by
  unfold AlbDevice.Listener.list
  split
  case isTrue known =>
      refine ⟨.inl, ?_⟩
      rintro (listed | rfl)
      · exact listed
      · exact known
  case isFalse => simp

theorem nodup_list {listener : Listener} (nodup : listener.rules.Nodup) (arn : String) :
    (AlbDevice.Listener.list listener arn).rules.Nodup := by
  unfold AlbDevice.Listener.list
  split
  case isTrue => exact nodup
  case isFalse absent =>
      refine nodup_append.mpr ⟨nodup, nodup_singleton arn, ?_⟩
      intro known inside new last same
      rw [mem_singleton.mp last] at same
      exact absent (same ▸ inside)

theorem Coherent.listener_list (coherent : Coherent system) {name : String} {object : Nat}
    (listed : system.device.listeners.lookup name = some object) (arn other : String)
    (rules : OrderedMap String Rule) :
    ({ system.device with
        rules := rules
        objects := system.device.objects.modify object fun listener =>
          AlbDevice.Listener.list listener arn } : AlbDevice).listener other =
      if other = name then
        (system.device.listener other).map fun listener => AlbDevice.Listener.list listener arn
      else system.device.listener other := by
  unfold AlbDevice.listener
  dsimp only
  split
  case isTrue same =>
      rw [same, listed, bind_some, bind_some, getElem?_modify]
      cases system.device.objects[object]? with
      | none => rfl
      | some listener => exact congrArg some (if_pos rfl)
  case isFalse different =>
      cases found : system.device.listeners.lookup other with
      | none => rfl
      | some known =>
        have apart : object ≠ known := by
          rintro rfl
          exact different (coherent.distinct other name object found listed)
        rw [bind_some, bind_some, getElem?_modify]
        cases system.device.objects[known]? with
        | none => rfl
        | some listener => exact congrArg some (if_neg apart)

theorem Coherent.rule (coherent : Coherent system) {rule : Rule}
    (created : system.device.newRule texts arguments = .ok (arn, rule))
    (some_condition : rule.conditions ≠ [])
    (own : ∀ old, system.device.rules.lookup arn = some old → old.listenerArn = rule.listenerArn) :
    Coherent { system with
      device := (system.device.createRule texts arguments).2
      entered := system.entered.insert arn rule.conditions } := by
  obtain ⟨⟨object, listed⟩, -⟩ := newRule_known created
  rw [AlbDevice.createRule, created]
  dsimp only
  rw [listed]
  constructor
  · intro other known found
    dsimp only at found ⊢
    rw [length_modify]
    exact coherent.objects other known found
  · exact coherent.distinct
  · intro other known found
    dsimp only at found ⊢
    rw [coherent.listener_list listed] at found
    have rest : ∀ listener, system.device.listener other = some listener → ∀ ruleArn,
        ruleArn ≠ arn → (ruleArn ∈ listener.rules ↔ ∃ stored,
          (system.device.rules.insert arn rule).lookup ruleArn = some stored ∧
            stored.listenerArn = other) := by
      intro listener before ruleArn different
      rw [lookup_insert_of_ne _ _ different]
      exact (coherent.lists other listener before).2 ruleArn
    split at found
    case isTrue same =>
        obtain ⟨listener, before, rfl⟩ := map_eq_some_iff.mp found
        refine ⟨nodup_list (coherent.lists other listener before).1 arn, fun ruleArn => ?_⟩
        rw [mem_list]
        by_cases new : ruleArn = arn
        · rw [new, lookup_insert_self]
          exact ⟨fun _ => ⟨rule, rfl, same.symm⟩, fun _ => .inr rfl⟩
        · rw [← rest listener before ruleArn new]
          exact ⟨fun either => either.resolve_right new, .inl⟩
    case isFalse different =>
        refine ⟨(coherent.lists other known found).1, fun ruleArn => ?_⟩
        by_cases new : ruleArn = arn
        · rw [new, lookup_insert_self]
          constructor
          · intro inside
            obtain ⟨old, stored, names⟩ := ((coherent.lists other known found).2 arn).mp inside
            exact absurd (names.symm.trans (own old stored)) different
          · rintro ⟨stored, same, names⟩
            cases same
            exact absurd names.symm different
        · exact rest known found ruleArn new
  · intro ruleArn stored found
    dsimp only at found ⊢
    rw [lookup_insert] at found ⊢
    split at found
    case isTrue same =>
        cases found
        exact ⟨⟨object, listed⟩, some_condition, if_pos same⟩
    case isFalse different =>
        obtain ⟨known, conditions, entered⟩ := coherent.known ruleArn stored found
        exact ⟨known, conditions, (if_neg different).trans entered⟩
  · exact coherent.proxies

/-! ## One command -/

theorem proxies_ensureProxy {proxies : OrderedMap String ListenerProxy}
    (kept : ∀ arn proxy, proxies.lookup arn = some proxy →
      device.listeners.lookup arn = some proxy.object) (binds : Bool) (name : String) :
    ∀ arn proxy, (device.ensureProxy binds proxies name).lookup arn = some proxy →
      device.listeners.lookup arn = some proxy.object := by
  have started : ∀ (before : OrderedMap String ListenerProxy) (vip : String) (port : Int)
      (object : Nat), device.listeners.lookup name = some object →
      (∀ arn proxy, before.lookup arn = some proxy →
        device.listeners.lookup arn = some proxy.object) →
      ∀ arn proxy, (if binds then before.insert name ⟨vip, port, object⟩ else before).lookup arn =
        some proxy → device.listeners.lookup arn = some proxy.object := by
    intro before vip port object listed kept arn proxy found
    split at found
    case isFalse => exact kept arn proxy found
    case isTrue =>
        rw [lookup_insert] at found
        split at found
        case isFalse => exact kept arn proxy found
        case isTrue same =>
            cases found
            rw [same]
            exact listed
  unfold AlbDevice.ensureProxy
  split
  case h_2 => exact kept
  case h_1 object listener listed found =>
      split
      case h_1 => exact kept
      case h_2 balancer balanced =>
          split
          case isTrue => exact kept
          case isFalse =>
              dsimp only
              split
              case h_1 => exact started proxies _ _ object listed kept
              case h_2 existing running =>
                  split
                  case isTrue => exact kept
                  case isFalse =>
                      refine started (proxies.erase name) _ _ object listed ?_
                      intro arn proxy found
                      rw [lookup_erase] at found
                      split at found
                      case isTrue => cases found
                      case isFalse => exact kept arn proxy found

/-- Looking after the proxies leaves each of them with the object of the store. -/
theorem Coherent.proxied (coherent : Coherent system) (binds : String → Bool)
    (names : List String) :
    Coherent { system with
      proxies := names.foldl (fun proxies arn =>
        system.device.ensureProxy (binds arn) proxies arn) system.proxies } := by
  refine ⟨coherent.objects, coherent.distinct, coherent.lists, coherent.known, ?_⟩
  dsimp only
  have kept := coherent.proxies
  generalize system.proxies = proxies at kept ⊢
  induction names generalizing proxies with
  | nil => exact kept
  | cons name rest ih => exact ih _ (proxies_ensureProxy kept (binds name) name)

theorem conditions_entered {specs : List String}
    (keyed : ∀ spec ∈ specs, ∀ part ∈ specParts spec, keyValue part ≠ none) :
    specs.filterMap enteredCondition = specs.filterMap AlbDevice.readCondition :=
  filterMap_congr fun spec inside => (readCondition_eq (keyed spec inside)).symm

/-- One step keeps everything together. -/
theorem coherent_step (coherent : Coherent system) {event : Event}
    (sound : Sound texts system event) : Coherent (system.step texts event) := by
  have changed : ∀ after, (enteredRule texts system.device event.command = none →
      after = system.entered) → (∀ arn conditions,
        enteredRule texts system.device event.command = some (arn, conditions) →
          after = system.entered.insert arn conditions) →
      Coherent { system with
        device := (system.device.albProcess texts event.command).2, entered := after } := by
    intro after unchanged inserted
    have effect := @effect_albProcess texts system.device event.command
    generalize (system.device.albProcess texts event.command).2 = next at effect ⊢
    cases effect with
    | same same none =>
      rw [unchanged none]
      exact coherent.same same
    | listener asks created none =>
      rw [unchanged none]
      obtain ⟨stopped, unnamed⟩ := (sound _ asks).1 rfl _ (by rw [created]; rfl)
      exact coherent.listener created stopped fun ruleArn rule stored =>
        unnamed rule (mem_values_iff.mpr ⟨ruleArn, stored⟩)
    | rule asks created entered =>
      rw [inserted _ _ entered]
      obtain ⟨some_condition, keyed, own⟩ := (sound _ asks).2 rfl _ (by rw [created]; rfl)
      rw [conditions_entered keyed, ← (newRule_known created).2]
      exact coherent.rule created some_condition own
  unfold System.step
  dsimp only
  split
  case isTrue =>
    exact (changed _ (fun none => by rw [none]) fun _ _ some => by rw [some]).proxied event.binds _
  case isFalse => exact changed _ (fun none => by rw [none]) fun _ _ some => by rw [some]

/-! ## Selection -/

theorem first_hit {Item Hit : Type} (key : Item → Int) {hit : Item → Option Hit}
    {items : List Item} {found : Hit}
    (first : (items.mergeSort fun left right => key left ≤ key right).findSome? hit = some found) :
    ∃ item ∈ items, hit item = some found ∧
      ∀ other ∈ items, hit other ≠ none → key item ≤ key other := by
  obtain ⟨before, item, after, split, hits, misses⟩ := findSome?_eq_some_iff.mp first
  have ordered : (items.mergeSort fun left right => key left ≤ key right).Pairwise
      fun left right => decide (key left ≤ key right) = true := by
    apply pairwise_mergeSort
    · intro _ _ _ first second
      exact decide_eq_true (Int.le_trans (of_decide_eq_true first) (of_decide_eq_true second))
    · intro left right
      rw [Bool.or_eq_true, decide_eq_true_eq, decide_eq_true_eq]
      exact Int.le_total (key left) (key right)
  rw [split, pairwise_append] at ordered
  have placed : ∀ other, other ∈ before ++ item :: after ↔ other ∈ items := by
    intro other
    rw [← split, mem_mergeSort]
  refine ⟨item, (placed item).mp (by simp), hits, fun other inside another => ?_⟩
  rcases mem_append.mp ((placed other).mpr inside) with early | late
  · exact absurd (misses other early) another
  · rcases mem_cons.mp late with rfl | later
    · exact Int.le_refl _
    · exact of_decide_eq_true ((pairwise_cons.mp ordered.2.1).1 other later)

theorem Coherent.applied (coherent : Coherent system) {path host ruleArn : String} {rule : Rule}
    (stored : system.device.rules.lookup ruleArn = some rule) (names : rule.listenerArn = arn)
    (target : Option String) :
    system.device.applied texts.letters path host ruleArn = some target ↔
      Applies texts system arn path host ruleArn rule ∧ rule.tgArn = target := by
  obtain ⟨-, conditions, entered⟩ := coherent.known ruleArn rule stored
  have matching : ruleMatches texts.letters rule.conditions path host = true ↔
      Applies texts system arn path host ruleArn rule := by
    rw [ruleMatches, Bool.and_eq_true, List.all_eq_true]
    constructor
    · rintro ⟨-, holds⟩
      refine ⟨stored, names, ?_⟩
      rw [entered]
      exact holds
    · intro applies
      have holds := applies.holds
      rw [entered] at holds
      exact ⟨by simpa using conditions, holds⟩
  unfold AlbDevice.applied
  rw [stored]
  dsimp only
  split
  case isTrue fits => simp [matching.mp fits]
  case isFalse fails => simp [mt matching.mpr fails]

theorem Coherent.routed (coherent : Coherent system) {proxy : ListenerProxy}
    (running : system.proxies.lookup arn = some proxy) (path host : String) :
    Routed texts system arn path host (system.device.selectTg texts.letters proxy path host) := by
  have listed := coherent.proxies arn proxy running
  have inside := coherent.objects arn proxy.object listed
  have present : system.device.objects[proxy.object]? = some system.device.objects[proxy.object] :=
    getElem?_eq_getElem inside
  have current : system.device.listener arn = some system.device.objects[proxy.object] := by
    rw [AlbDevice.listener, listed, bind_some, present]
  have rules := (coherent.lists arn _ current).2
  unfold AlbDevice.selectTg
  rw [present]
  dsimp only
  cases first : (List.mergeSort _ _).findSome? _ with
  | some target =>
    obtain ⟨ruleArn, mine, hits, least⟩ := first_hit system.device.priority first
    obtain ⟨rule, stored, names⟩ := (rules ruleArn).mp mine
    obtain ⟨applies, rfl⟩ := (coherent.applied stored names target).mp hits
    refine .inl ⟨ruleArn, rule, applies, fun otherArn other applies' => ?_, rfl⟩
    have also := least otherArn
      ((rules otherArn).mpr ⟨other, applies'.listed, applies'.listener⟩) (by
        rw [(coherent.applied applies'.listed applies'.listener _).mpr ⟨applies', rfl⟩]
        exact some_ne_none _)
    rw [AlbDevice.priority, AlbDevice.priority, stored, applies'.listed] at also
    exact also
  | none =>
    refine .inr ⟨fun ruleArn rule applies => ?_, _, current, rfl⟩
    have misses := findSome?_eq_none_iff.mp first ruleArn (mem_mergeSort.mpr
      ((rules ruleArn).mpr ⟨rule, applies.listed, applies.listener⟩))
    rw [(coherent.applied applies.listed applies.listener _).mpr ⟨applies, rfl⟩] at misses
    cases misses

theorem Coherent.follows (coherent : Coherent system) : Follows texts system where
  routes _ _ running path host := coherent.routed running path host
  lists := coherent.lists

/-! ## Every history -/

theorem coherent_newSystem (hostname vip : String) : Coherent (newSystem hostname vip) := by
  constructor
  · exact nofun
  · exact nofun
  · exact nofun
  · exact nofun
  · exact nofun

/-- If listeners are created under free names and rules with all the conditions that are entered for
them, proxies follow the configuration throughout. -/
theorem follows_throughout (texts : Texts) (hostname vip : String) (events : List Event)
    (sound : Along (System.step texts) (Sound texts) (newSystem hostname vip) events) :
    Throughout (System.step texts) (Follows texts) (newSystem hostname vip) events := by
  have kept : Throughout (System.step texts) Coherent (newSystem hostname vip) events :=
    throughout_of_along (fun _ _ coherent sound => coherent_step coherent sound)
      (coherent_newSystem hostname vip) sound
  exact kept.weaken fun _ coherent => coherent.follows

end Keeping

/-- Digests of the texts that the commands below make names with. -/
def knownDigest (text : String) : String :=
  if text = "h:loadbalancer:a" then "c4191d4122362fb096d11c7930a4598e0e39536e"
  else if text = "h:targetgroup:t" then "62aad09cfc6632d5e0e1928f9ed1b1b84e03ed24"
  else if text = "h:listener:a-80" then "297bc55f49c2f0a264549dffa5da50d2ef9febab"
  else "d1e271ce4370c2f9225d9d574cabb9aab41456eb"

def webTexts : Texts := plainTexts knownDigest

def freely (command : String) : Event := ⟨command, fun _ => true⟩

def webArn : String :=
  "arn:aws:elasticloadbalancing:us-east-1:123456789012:listener/app/a-80/297bc55f49c2f0a2"

def webEvents : List Event :=
  [freely "aws elbv2 create-load-balancer --name a",
    freely "aws elbv2 create-target-group --name t",
    freely "aws elbv2 create-listener --load-balancer-arn a"]

def ruleEvent : Event :=
  freely ("aws elbv2 create-rule --listener-arn " ++ webArn ++
    " --conditions Field=host-header,Values=x")

def againEvent : Event :=
  freely ("aws elbv2 create-listener --load-balancer-arn a " ++
    "--default-actions Type=forward,TargetGroupArn=t")

theorem ruleEvent_followed :
    Throughout (System.step webTexts) (Follows webTexts) (newSystem "h" "1.1.1.1")
      (webEvents ++ [ruleEvent]) :=
  follows_throughout webTexts "h" "1.1.1.1" (webEvents ++ [ruleEvent]) (by decide +kernel)

/-- What a second creation of the listener leaves. -/
theorem againEvent_leaves :
    let system := runFrom (System.step webTexts) (newSystem "h" "1.1.1.1")
      (webEvents ++ [againEvent])
    system.proxies.lookup webArn = some ⟨"1.1.1.1", 80, 0⟩ ∧ system.device.rules = .empty ∧
      system.device.objects[0]?.map (fun listener => (listener.rules, listener.defaultTgArn)) =
        some ([], none) ∧
      (system.device.listener webArn).map Listener.defaultTgArn ≠ some none := by
  decide +kernel

/-- The proxy keeps the listener that was there before. -/
theorem default_not_followed :
    ¬ Throughout (System.step webTexts) (Follows webTexts) (newSystem "h" "1.1.1.1")
      (webEvents ++ [againEvent]) := by
  intro followed
  obtain ⟨running, bare, kept, current⟩ := againEvent_leaves
  have follows := followed.finish
  generalize runFrom (System.step webTexts) (newSystem "h" "1.1.1.1")
    (webEvents ++ [againEvent]) = system at follows running bare kept current
  have stale : system.device.selectTg webTexts.letters ⟨"1.1.1.1", 80, 0⟩ "/" "" = none := by
    obtain ⟨listener, object, fields⟩ := map_eq_some_iff.mp kept
    obtain ⟨rules, default⟩ := Prod.mk.inj fields
    unfold AlbDevice.selectTg
    rw [object]
    dsimp only
    rw [rules, default, mergeSort_nil]
    rfl
  rcases follows.routes webArn _ running "/" "" with ⟨ruleArn, rule, applies, -⟩ | ⟨-, routed⟩
  · have listed := applies.listed
    rw [bare] at listed
    cases listed
  · obtain ⟨listener, found, target⟩ := routed
    rw [found, map_some, ← target, stale] at current
    exact current rfl

end NetLab.Alb
