import NetLab.Netconf.Datastore

/-!
# The reply to a read

The text of a reply is the plain rendering of an element, which a client reads back if the texts of
the interfaces need no escaping.
-/

namespace NetLab.Netconf

open List

open NetLab.Library Xml

variable {info : IfaceInfo} {state : DeviceState} (messageId : String)

/-! ## The reply as an element -/

/-- The element of an interface in a reply. -/
def interfaceNode (name : String) (info : IfaceInfo) : Xml.Node :=
  .node "interface" [] "" ([.node "name" [] name [],
        .node "type" [("xmlns:ianaift", "urn:ietf:params:xml:ns:yang:iana-if-type")]
          "ianaift:ethernetCsmacd" [],
        .node "enabled" [] (boolName info.enabled) []] ++
      (if info.shownDesc ≠ "" then [.node "description" [] info.shownDesc []] else []) ++
      (if info.ip ≠ "" then
        [.node "ipv4" [("xmlns", nsIp)] "" [.node "address" [] ""
            [.node "ip" [] info.ip [], .node "netmask" [] info.maskText []]]]
      else []))

def replyNode (messageId : String) (state : DeviceState) : Xml.Node :=
  .node "rpc-reply" [("xmlns", nsBase), ("message-id", messageId)] "" [.node "data" [] ""
      [.node "interfaces" [("xmlns", nsInterfaces)] ""
        (state.interfaces.entries.map fun entry => interfaceNode entry.1 entry.2)]]

/-- An interface has a mask unless its address has a prefix that is too long. -/
def IfaceInfo.HasMask (info : IfaceInfo) : Prop :=
  info.ip ≠ "" → info.prefixLength.getD 24 ≤ 32

/-- An element is what is written between its tags. -/
theorem render_between {name text : String} {attributes : List (String × String)}
    {children : List Xml.Node} {opening closing : String}
    (opens : opening.toList = '<' :: (name.toList ++ (attributes.flatMap renderAttribute ++ ['>'])))
    (closes : closing.toList = '<' :: '/' :: (name.toList ++ ['>'])) :
    render (.node name attributes text children) =
      opening.toList ++ (text.toList ++ (renderAll children ++ closing.toList)) := by
  rw [opens, closes, render]
  simp

theorem renderAll_append (first second : List Xml.Node) :
    renderAll (first ++ second) = renderAll first ++ renderAll second := by
  induction first with
  | nil => rfl
  | cons child rest ih => rw [cons_append, renderAll, renderAll, ih, append_assoc]

theorem renderAll_cons (child : Xml.Node) (rest : List Xml.Node) :
    renderAll (child :: rest) = render child ++ renderAll rest := by
  rw [renderAll]

theorem renderAll_nil : renderAll [] = [] := by
  rw [renderAll]

theorem render_address (ip netmask : String) :
    render (.node "ipv4" [("xmlns", nsIp)] "" [.node "address" [] ""
      [.node "ip" [] ip [], .node "netmask" [] netmask []]]) =
      ("<ipv4 xmlns=\"" ++ nsIp ++ "\"><address>" ++ "<ip>" ++ ip ++ "</ip>" ++ "<netmask>" ++
        netmask ++ "</netmask>" ++ "</address></ipv4>").toList := by
  have opening : "\"><address>".toList = "\">".toList ++ "<address>".toList := by decide
  have closing : "</address></ipv4>".toList = "</address>".toList ++ "</ipv4>".toList := by decide
  rw [@render_between "ipv4" "" [("xmlns", nsIp)] _ ("<ipv4 xmlns=\"" ++ nsIp ++ "\">") "</ipv4>"
      (by decide) (by decide),
    renderAll_cons, renderAll_nil,
    @render_between "address" "" [] _ "<address>" "</address>" (by decide) (by decide),
    renderAll_cons, renderAll_cons, renderAll_nil,
    @render_between "ip" ip [] _ "<ip>" "</ip>" (by decide) (by decide),
    @render_between "netmask" netmask [] _ "<netmask>" "</netmask>" (by decide) (by decide)]
  simp only [String.toList_append, opening, closing, String.toList_empty, renderAll_nil,
    append_assoc, append_nil, nil_append]

theorem maskText_eq {netmask : String}
    (masked : prefixToMask (info.prefixLength.getD 24) = some netmask) :
    info.maskText = netmask := by
  rw [IfaceInfo.maskText, masked]
  rfl

theorem exists_mask {prefixLength : Nat} (short : prefixLength ≤ 32) :
    ∃ netmask, prefixToMask prefixLength = some netmask := by
  rw [prefixToMask, if_neg (Nat.not_lt.mpr short)]
  exact ⟨_, rfl⟩

/-- The first children of an interface. -/
theorem render_head (name : String) (info : IfaceInfo) : renderAll [.node "name" [] name [],
        .node "type" [("xmlns:ianaift", "urn:ietf:params:xml:ns:yang:iana-if-type")]
          "ianaift:ethernetCsmacd" [],
        .node "enabled" [] (boolName info.enabled) []] =
      ("<name>" ++ name ++ "</name>" ++
        "<type xmlns:ianaift=\"urn:ietf:params:xml:ns:yang:iana-if-type\">" ++
        "ianaift:ethernetCsmacd</type>" ++
        "<enabled>" ++ boolName info.enabled ++ "</enabled>").toList := by
  have closing : "ianaift:ethernetCsmacd</type>".toList =
      "ianaift:ethernetCsmacd".toList ++ "</type>".toList := by decide
  rw [renderAll_cons, renderAll_cons, renderAll_cons, renderAll_nil,
    @render_between "name" name [] _ "<name>" "</name>" (by decide) (by decide),
    @render_between "type" _ _ _
      "<type xmlns:ianaift=\"urn:ietf:params:xml:ns:yang:iana-if-type\">" "</type>" (by decide)
      (by decide),
    @render_between "enabled" _ [] _ "<enabled>" "</enabled>" (by decide) (by decide)]
  simp only [String.toList_append, closing, renderAll_nil, append_assoc, append_nil, nil_append]

theorem render_interface (name : String) (hasMask : info.HasMask) :
    ∃ xml, interfaceXml name info = some xml ∧ xml.toList = render (interfaceNode name info) := by
  have description : renderAll
      (if info.shownDesc ≠ "" then [.node "description" [] info.shownDesc []] else []) =
        (if info.shownDesc ≠ "" then "<description>" ++ info.shownDesc ++ "</description>"
          else "").toList := by
    split
    · rw [renderAll_cons, renderAll_nil, @render_between "description" info.shownDesc [] _
        "<description>" "</description>" (by decide) (by decide)]
      simp only [String.toList_append, renderAll_nil, append_assoc, append_nil, nil_append]
    · rw [renderAll_nil, String.toList_empty]
  rw [interfaceNode, @render_between "interface" "" [] _ "<interface>" "</interface>" (by decide)
    (by decide), renderAll_append, renderAll_append, render_head, description]
  by_cases noAddress : info.ip = ""
  · refine ⟨_, by rw [interfaceXml]; exact if_neg (not_not_intro noAddress), ?_⟩
    rw [if_neg (not_not_intro noAddress), renderAll_nil]
    simp only [String.toList_append, String.toList_empty, boolName, append_assoc,
      append_nil, nil_append]
  · obtain ⟨netmask, masked⟩ := exists_mask (hasMask noAddress)
    refine ⟨_, by rw [interfaceXml]; exact (if_pos noAddress).trans (by rw [masked]; rfl), ?_⟩
    rw [if_pos noAddress, renderAll_cons, renderAll_nil, render_address, maskText_eq masked]
    simp only [String.toList_append, String.toList_empty, boolName, append_assoc,
      append_nil, nil_append]

theorem render_interfaces {entries : List (String × IfaceInfo)}
    (hasMasks : ∀ entry ∈ entries, entry.2.HasMask) :
    ∃ parts, (entries.mapM fun entry => interfaceXml entry.1 entry.2) = some parts ∧
      parts.flatMap String.toList =
        renderAll (entries.map fun entry => interfaceNode entry.1 entry.2) := by
  induction entries with
  | nil => exact ⟨[], rfl, by rw [map_nil, renderAll_nil, flatMap_nil]⟩
  | cons entry rest ih =>
    rw [forall_mem_cons] at hasMasks
    obtain ⟨xml, written, same⟩ := render_interface entry.1 hasMasks.1
    obtain ⟨parts, others, sames⟩ := ih hasMasks.2
    refine ⟨xml :: parts, ?_, ?_⟩
    · rw [mapM_cons, written, others]
      rfl
    · rw [flatMap_cons, same, sames, map_cons, renderAll_cons]

theorem toList_replyTag :
    ("<rpc-reply xmlns=\"" ++ nsBase ++ "\" message-id=\"" ++ messageId ++ "\">").toList =
      '<' :: ("rpc-reply".toList ++
        ([("xmlns", nsBase), ("message-id", messageId)].flatMap renderAttribute ++ ['>'])) := by
  have start : ("<rpc-reply xmlns=\"" ++ nsBase ++ "\" message-id=\"").toList =
      '<' :: ("rpc-reply".toList ++ (renderAttribute ("xmlns", nsBase) ++
        ' ' :: ("message-id".toList ++ ['=', '"']))) := by decide
  have finish : "\">".toList = ['"', '>'] := by decide
  have second : Xml.renderAttribute ("message-id", messageId) =
      ' ' :: ("message-id".toList ++ '=' :: '"' :: (messageId.toList ++ ['"'])) := rfl
  rw [String.toList_append, String.toList_append, start, finish, List.flatMap_cons,
    List.flatMap_cons, List.flatMap_nil, second]
  simp only [List.append_assoc, List.cons_append, List.nil_append]

theorem render_replyNode (state : DeviceState) : Xml.render (replyNode messageId state) =
      ("<rpc-reply xmlns=\"" ++ nsBase ++ "\" message-id=\"" ++ messageId ++ "\">").toList ++
        ("<data>".toList ++ (("<interfaces xmlns=\"" ++ nsInterfaces ++ "\">").toList ++
          (renderAll (state.interfaces.entries.map fun entry =>
            interfaceNode entry.1 entry.2) ++ "</interfaces>".toList) ++ "</data>".toList) ++
              "</rpc-reply>".toList) := by
  rw [replyNode, @render_between "rpc-reply" "" _ _
      ("<rpc-reply xmlns=\"" ++ nsBase ++ "\" message-id=\"" ++ messageId ++ "\">")
      "</rpc-reply>" (toList_replyTag messageId) (by decide),
    renderAll_cons, renderAll_nil,
    @render_between "data" "" [] _ "<data>" "</data>" (by decide) (by decide),
    renderAll_cons, renderAll_nil,
    @render_between "interfaces" "" [("xmlns", nsInterfaces)] _
      ("<interfaces xmlns=\"" ++ nsInterfaces ++ "\">") "</interfaces>" (by decide) (by decide)]
  simp only [String.toList_empty, append_nil, nil_append]

theorem text_data (messageId xml : String) : (Reply.data messageId (.interfaces xml)).text =
    "<rpc-reply xmlns=\"" ++ nsBase ++ "\" message-id=\"" ++ messageId ++ "\">" ++
      ("<data>" ++ xml ++ "</data>") ++ "</rpc-reply>" := rfl

theorem render_reply (hasMasks : ∀ entry ∈ state.interfaces.entries, entry.2.HasMask) :
    ∃ xml, buildInterfacesXml state = some xml ∧
      (Reply.data messageId (.interfaces xml)).text.toList =
        render (replyNode messageId state) := by
  obtain ⟨parts, written, same⟩ := render_interfaces hasMasks
  refine ⟨"<interfaces xmlns=\"" ++ nsInterfaces ++ "\">" ++ String.join parts ++ "</interfaces>",
    ?_, ?_⟩
  · rw [buildInterfacesXml, written, Option.map_some]
  · rw [render_replyNode, ← same, text_data]
    simp only [String.toList_append, String.toList_join, append_assoc]

/-! ## What a reply shows -/

theorem leavesOf_interfaceNode (name : String) (info : IfaceInfo) :
    leavesOf (interfaceNode name info) = info.leaves := by
  by_cases noDesc : info.shownDesc = "" <;> by_cases noAddress : info.ip = ""
  all_goals simp [leavesOf, interfaceNode, IfaceInfo.leaves, Xml.Node.child, Xml.Node.children,
      Xml.Node.name, Xml.Node.text, noDesc, noAddress]

theorem find_interfaceNode (entries : List (String × IfaceInfo)) (name : String) :
    ((entries.map fun entry => interfaceNode entry.1 entry.2).find? fun iface =>
      (iface.child "name").map Xml.Node.text = some name).map leavesOf =
        (OrderedMap.lookupEntries entries name).map IfaceInfo.leaves := by
  induction entries with
  | nil => rfl
  | cons entry rest ih =>
    have named : ((interfaceNode entry.1 entry.2).child "name").map Xml.Node.text =
        some entry.1 := by
      simp [interfaceNode, Xml.Node.child, Xml.Node.children, Xml.Node.name, Xml.Node.text]
    rw [map_cons, find?_cons, named, OrderedMap.lookupEntries]
    by_cases same : entry.1 = name
    · simp [same, leavesOf_interfaceNode]
    · simpa [same] using ih

theorem shown_replyNode (state : DeviceState) : shown (replyNode messageId state) = state.held := by
  funext name
  have all : (state.interfaces.entries.map fun entry => interfaceNode entry.1 entry.2).filter
      (fun child => child.name = "interface") =
        state.interfaces.entries.map fun entry => interfaceNode entry.1 entry.2 := by
    rw [filter_eq_self]
    intro iface inside
    obtain ⟨entry, -, rfl⟩ := mem_map.mp inside
    simp [interfaceNode, Xml.Node.name]
  rw [DeviceState.held, OrderedMap.lookup, ← find_interfaceNode, ← all]
  simp [shown, replyNode, Xml.Node.child, Xml.Node.childrenNamed, Xml.Node.children, Xml.Node.name]

theorem plainText_of_leaves (readable : info.leaves.Readable) : Xml.PlainText info.ip.toList := by
  by_cases noAddress : info.ip = ""
  · rw [noAddress]
    decide
  · exact (readable.address info.ip info.maskText (if_neg noAddress)).1

theorem hasMask_of_leaves (readable : info.leaves.Readable) : info.HasMask := by
  intro present
  have masked := (readable.address info.ip info.maskText (if_neg present)).2
  by_contra long
  rw [IfaceInfo.maskText, prefixToMask, if_pos (Nat.not_le.mp long)] at masked
  exact masked rfl

theorem plainText_mask : ∀ prefixLength ≤ 32,
    Xml.PlainText ((prefixToMask prefixLength).getD "").toList := by
  decide +kernel

theorem plain_leaf {name text : String} (plainName : Xml.PlainName name.toList)
    (plainText : Xml.PlainText text.toList) : (Xml.Node.node name [] text []).Plain :=
  ⟨plainName, fun _ listed => absurd listed not_mem_nil, nodup_nil, plainText, trivial⟩

theorem allPlain_append {first second : List Xml.Node} (plainFirst : Xml.AllPlain first)
    (plainSecond : Xml.AllPlain second) : Xml.AllPlain (first ++ second) := by
  induction first with
  | nil => exact plainSecond
  | cons child rest ih => exact ⟨plainFirst.1, ih plainFirst.2⟩

theorem plain_interfaceNode {name : String} (plainName : Xml.PlainText name.toList)
    (readable : info.leaves.Readable) : (interfaceNode name info).Plain := by
  have nothing : Xml.PlainText "".toList := by decide
  have flag : Xml.PlainText (boolName info.enabled).toList := by
    cases info.enabled <;> decide
  have none : ∀ entry ∈ ([] : List (String × String)), Xml.PlainName entry.1.toList ∧
      Xml.PlainValue entry.2.toList := fun _ listed => absurd listed not_mem_nil
  refine ⟨by decide, none, nodup_nil, nothing, allPlain_append (allPlain_append ?_ ?_) ?_⟩
  · exact ⟨plain_leaf (by decide) plainName,
      ⟨by decide, by decide, by decide, by decide, trivial⟩, plain_leaf (by decide) flag, trivial⟩
  · split
    · exact ⟨plain_leaf (by decide) readable.description, trivial⟩
    · trivial
  · split
    · rename_i present
      have mask : Xml.PlainText info.maskText.toList := plainText_mask _ (hasMask_of_leaves readable present)
      exact ⟨⟨by decide, by decide, by decide, nothing,
        ⟨by decide, none, nodup_nil, nothing, plain_leaf (by decide) (plainText_of_leaves readable),
          plain_leaf (by decide) mask, trivial⟩, trivial⟩, trivial⟩
    · trivial

theorem readable_of_entry (readable : state.held.Readable) {entry : String × IfaceInfo}
    (inside : entry ∈ state.interfaces.entries) :
    Xml.PlainText entry.1.toList ∧ entry.2.leaves.Readable := by
  have found : state.interfaces.lookup entry.1 = some entry.2 :=
    OrderedMap.mem_entries_iff.mp inside
  refine readable entry.1 entry.2.leaves ?_
  rw [DeviceState.held, found, Option.map_some]

section

variable {messageId : String} (plainId : Xml.PlainValue messageId.toList)
  (readable : state.held.Readable)
include plainId readable

theorem plain_replyNode : (replyNode messageId state).Plain := by
  have nothing : Xml.PlainText "".toList := by decide
  have none : ∀ entry ∈ ([] : List (String × String)), Xml.PlainName entry.1.toList ∧
      Xml.PlainValue entry.2.toList := fun _ listed => absurd listed not_mem_nil
  have ifaces : ∀ {entries : List (String × IfaceInfo)},
      (∀ entry ∈ entries, Xml.PlainText entry.1.toList ∧ entry.2.leaves.Readable) →
        Xml.AllPlain (entries.map fun entry => interfaceNode entry.1 entry.2) := by
    intro entries all
    induction entries with
    | nil => trivial
    | cons entry rest ih =>
      rw [forall_mem_cons] at all
      exact ⟨plain_interfaceNode all.1.1 all.1.2, ih all.2⟩
  have keys : ["xmlns", "message-id"].Nodup := by decide
  have key : Xml.PlainName "message-id".toList := by decide
  refine ⟨by decide, ?_, keys, nothing, ⟨by decide, none, nodup_nil, nothing,
    ⟨by decide, by decide, by decide, nothing,
      ifaces fun _ inside => readable_of_entry readable inside⟩, trivial⟩, trivial⟩
  intro entry listed
  rcases mem_cons.mp listed with rfl | listed
  · decide
  · rw [mem_singleton.mp listed]
    exact ⟨key, plainId⟩

/-- A device whose interfaces can be read answers a read with a well-formed reply that shows what it
holds. -/
theorem reads_held :
    ∃ xml document, buildInterfacesXml state = some xml ∧
      readXml (Reply.data messageId (.interfaces xml)).text.toList = some document ∧
        shown document = state.held := by
  obtain ⟨xml, written, rendered⟩ := render_reply messageId fun entry inside =>
    hasMask_of_leaves (readable_of_entry readable inside).2
  refine ⟨xml, replyNode messageId state, written, ?_, shown_replyNode messageId state⟩
  rw [rendered]
  exact readXml_render (plain_replyNode plainId readable)

end

end NetLab.Netconf
