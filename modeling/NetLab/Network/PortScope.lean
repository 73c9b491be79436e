import NetLab.Network.LinkLiveness

/-!
# Shutting ports by name

A port has a type and a number, and its name may spell the type in several ways. The network keeps
the spellings it was given and compares the numbers only. `port_counts_iff` says when a port still
counts as shut exactly if the last call for it, in whatever spelling, shut it.
-/

namespace NetLab.Network

open NetLab.Library NetLab.Execution VirtualNetwork

inductive PortType where
  | tenGigabitEthernet
  | gigabitEthernet
  | fastEthernet
  | ethernet
deriving DecidableEq

/-- The port type that each accepted prefix spells. -/
def spelledTypes : List (String × PortType) :=
  [("tengigabitethernet", .tenGigabitEthernet), ("gigabitethernet", .gigabitEthernet),
    ("fastethernet", .fastEthernet), ("ethernet", .ethernet), ("tengige", .tenGigabitEthernet),
    ("te", .tenGigabitEthernet), ("gi", .gigabitEthernet), ("fa", .fastEthernet),
    ("eth", .ethernet), ("et", .ethernet), ("ge", .gigabitEthernet), ("g", .gigabitEthernet),
    ("e", .ethernet)]

example : spelledTypes.map Prod.fst = ifacePrefixes := rfl

def droppedType (text : List Char) : List (String × PortType) → Option PortType
  | [] => none
  | (candidate, type) :: rest =>
    let spelling := candidate.toList
    let remainder := text.drop spelling.length
    let accepted := match remainder.head? with
      | none => true
      | some first => first.isDigit || first == ' '
    if spelling.isPrefixOf text && accepted then some type else droppedType text rest

/-- A physical port. A name without an accepted prefix is a port of its own. -/
structure Port where
  type : Option PortType
  number : String
deriving DecidableEq

def portOf (name : String) : Port :=
  ⟨droppedType (stripBlanks (name.toList.map Char.toLower)) spelledTypes, normIface name⟩

variable {Device : Type} [DecidableEq Device]

/-- Whether an operation shuts a port of a device with such a name, or brings one up. -/
def LinkOp.callFor (device : Device) (named : String → Bool) : LinkOp Device → Option Bool
  | .interfaceDown other iface => if other = device ∧ named iface then some true else none
  | .interfaceUp other iface => if other = device ∧ named iface then some false else none
  | .addLink _ _ _ _ => none

/-- Whether the last of the operations that names such a port shut it. -/
def lastCall (device : Device) (named : String → Bool) (ops : List (LinkOp Device)) : Option Bool :=
  ops.foldl (fun last op => (op.callFor device named).or last) none

/-- The last call for a name, in this very spelling, shut it. -/
def NameShut (ops : List (LinkOp Device)) (device : Device) (name : String) : Prop :=
  lastCall device (fun iface => iface = name) ops = some true

/-- The last call for a port, in whatever spelling, shut it. -/
def PortShut (ops : List (LinkOp Device)) (device : Device) (port : Port) : Prop :=
  lastCall device (fun iface => portOf iface = port) ops = some true

variable (network : VirtualNetwork Device) (ops : List (LinkOp Device)) (device peer : Device)
  (iface : String)

theorem lastCall_append_singleton (named : String → Bool) (ops : List (LinkOp Device))
    (op : LinkOp Device) :
    lastCall device named (ops ++ [op]) = (op.callFor device named).or (lastCall device named ops) := by
  simp [lastCall]

namespace VirtualNetwork

/-- The network with every port brought up. -/
def opened (network : VirtualNetwork Device) : VirtualNetwork Device :=
  { network with downInterfaces := fun _ => [] }

/-- A port counts as shut if a link over this port alone is taken to be down. -/
def countsAsShut (network : VirtualNetwork Device) (device peer : Device) (iface : String) : Prop :=
  edgeUp { network with
    linkIfaces := fun near far => if near = device ∧ far = peer then [iface] else [] }
    device peer = false

theorem countsAsShut_iff :
    network.countsAsShut device peer iface ↔ network.shutBySpelling device iface := by
  rw [countsAsShut, ← Bool.not_eq_true, edgeUp_iff]
  by_cases same : peer = device
  · subst same
    simp [shutBySpelling]
  · simp [shutBySpelling, same]

theorem mem_downInterfaces_iff (name : String) :
    name ∈ (runFrom apply network.opened ops).downInterfaces device ↔ NameShut ops device name := by
  induction ops using List.reverseRecOn with
  | nil => simp [opened, NameShut, lastCall]
  | append_singleton ops op ih =>
    rw [runFrom_append, runFrom_cons, runFrom_nil, NameShut, lastCall_append_singleton]
    cases op with
    | addLink first second firstIface secondIface => exact ih
    | interfaceDown other iface =>
      by_cases here : other = device
      · subst here
        by_cases same : iface = name
        · simp [apply, interfaceDown, LinkOp.callFor, mem_addMember, same]
        · simpa [apply, NameShut, interfaceDown, LinkOp.callFor, mem_addMember, same, Ne.symm same]
            using ih
      · simpa [apply, NameShut, interfaceDown, LinkOp.callFor, here, Ne.symm here] using ih
    | interfaceUp other iface =>
      by_cases here : other = device
      · subst here
        by_cases same : iface = name
        · simp [apply, interfaceUp, LinkOp.callFor, same]
        · simpa [apply, NameShut, interfaceUp, LinkOp.callFor, same, Ne.symm same] using ih
      · simpa [apply, NameShut, interfaceUp, LinkOp.callFor, here, Ne.symm here] using ih

theorem countsAsShut_run_iff : (runFrom apply network.opened ops).countsAsShut device peer iface ↔
      ∃ name, normIface name = normIface iface ∧ NameShut ops device name := by
  rw [countsAsShut_iff, shutBySpelling, List.mem_map]
  constructor
  · rintro ⟨name, member, same⟩
    exact ⟨name, same, (mem_downInterfaces_iff network ops device name).mp member⟩
  · rintro ⟨name, same, shut⟩
    exact ⟨name, (mem_downInterfaces_iff network ops device name).mpr shut, same⟩

end VirtualNetwork

theorem normIface_of_portOf {name iface : String} (same : portOf name = portOf iface) :
    normIface name = normIface iface := congrArg Port.number same

theorem PortShut.exists_nameShut {ops : List (LinkOp Device)} {device : Device} {port : Port}
    (shut : PortShut ops device port) : ∃ name, portOf name = port ∧ NameShut ops device name := by
  induction ops using List.reverseRecOn with
  | nil => cases shut
  | append_singleton ops op ih =>
    rw [PortShut, lastCall_append_singleton] at shut
    have earlier : op.callFor device (fun iface => portOf iface = port) = none →
        ∃ name, portOf name = port ∧ NameShut (ops ++ [op]) device name := by
      intro silent
      obtain ⟨name, stands, nameShut⟩ := ih (by simpa [PortShut, silent] using shut)
      refine ⟨name, stands, ?_⟩
      rw [NameShut, lastCall_append_singleton]
      have silentHere : op.callFor device (fun iface => iface = name) = none := by
        cases op with
        | addLink first second firstIface secondIface => rfl
        | interfaceDown other iface =>
          simp only [LinkOp.callFor, ite_eq_right_iff, reduceCtorEq, imp_false,
            decide_eq_true_eq] at silent ⊢
          exact fun ⟨here, same⟩ => silent ⟨here, same ▸ stands⟩
        | interfaceUp other iface =>
          simp only [LinkOp.callFor, ite_eq_right_iff, reduceCtorEq, imp_false,
            decide_eq_true_eq] at silent ⊢
          exact fun ⟨here, same⟩ => silent ⟨here, same ▸ stands⟩
      rw [silentHere]
      exact nameShut
    cases op with
    | addLink first second firstIface secondIface => exact earlier rfl
    | interfaceDown other iface =>
      by_cases named : other = device ∧ portOf iface = port
      · refine ⟨iface, named.2, ?_⟩
        rw [NameShut, lastCall_append_singleton]
        simp [LinkOp.callFor, named.1]
      · exact earlier (by simpa [LinkOp.callFor] using named)
    | interfaceUp other iface =>
      by_cases named : other = device ∧ portOf iface = port
      · simp [LinkOp.callFor, named] at shut
      · exact earlier (by simpa [LinkOp.callFor] using named)

/-- A port counts as shut exactly if the last call for it shut it, on exactly these sequences of
calls: if the last call did not, no name with the port's number, be it another spelling or the name
of a port of another type, was last shut. And shutting another port does not make it count as shut
unless the two have the same number. -/
theorem port_counts_iff (network : VirtualNetwork Device) (ops : List (LinkOp Device))
    (device peer : Device) (iface : String) :
    (((runFrom apply network.opened ops).countsAsShut device peer iface ↔
        PortShut ops device (portOf iface)) ↔
      (¬ PortShut ops device (portOf iface) →
        ∀ name, normIface name = normIface iface → ¬ NameShut ops device name)) ∧
    ∀ other, portOf other ≠ portOf iface →
      ((¬ (runFrom apply network.opened ops).countsAsShut device peer iface →
          ¬ ((runFrom apply network.opened ops).interfaceDown device
            other).countsAsShut device peer iface) ↔
        (¬ (runFrom apply network.opened ops).countsAsShut device peer iface →
          normIface other ≠ normIface iface)) := by
  constructor
  · rw [countsAsShut_run_iff]
    constructor
    · intro counts notShut name number nameShut
      exact notShut (counts.mp ⟨name, number, nameShut⟩)
    · intro noneLeft
      constructor
      · rintro ⟨name, number, nameShut⟩
        by_contra notShut
        exact noneLeft notShut name number nameShut
      · intro shut
        obtain ⟨name, stands, nameShut⟩ := shut.exists_nameShut
        exact ⟨name, normIface_of_portOf stands, nameShut⟩
  · intro other _
    refine imp_congr_right fun notBefore => not_congr ?_
    rw [countsAsShut_iff] at notBefore ⊢
    constructor
    · intro shut
      obtain ⟨name, member, number⟩ := List.mem_map.mp shut
      simp only [interfaceDown, Function.update_self, mem_addMember] at member
      rcases member with before | rfl
      · exact absurd (List.mem_map.mpr ⟨name, before, number⟩) notBefore
      · exact number
    · intro number
      refine List.mem_map.mpr ⟨other, ?_, number⟩
      simp [interfaceDown, mem_addMember]

/-- A port brought up under another spelling still counts as shut, and so does a port of another
type with the number of one that is shut. -/
theorem spellings_conflated : ((runFrom apply (unlinked : VirtualNetwork Nat).opened
        [.interfaceDown 0 "GigabitEthernet1/0/1", .interfaceUp 0 "Gi1/0/1"]).countsAsShut 0 1
          "GigabitEthernet1/0/1" ∧
      ¬ PortShut [.interfaceDown 0 "GigabitEthernet1/0/1", .interfaceUp 0 "Gi1/0/1"] 0
        (portOf "GigabitEthernet1/0/1")) ∧
    (runFrom apply (unlinked : VirtualNetwork Nat).opened
        [.interfaceDown 0 "GigabitEthernet1/0/1"]).countsAsShut 0 1 "TenGigabitEthernet1/0/1" ∧
      portOf "TenGigabitEthernet1/0/1" ≠ portOf "GigabitEthernet1/0/1" := by
  unfold countsAsShut PortShut
  decide +kernel

end NetLab.Network
