import Mathlib.Algebra.BigOperators.Group.List.Basic
import DollState.History.Messages
import DollState.History.Identity

/-!
# The counts of a ChatGPT export

A conversation that is selected is counted while it is mapped, any other by `_inventory_conversation`.
The mapping gives up a message at the first of its defects, and counts nothing of it but that it is
malformed; the inventory goes on, and counts a defect of the author and one of the content for
themselves. `countedAlike_iff` says for which conversations the two counts are the same.
-/

namespace DollState.History.ChatGPT

open StateLib JsonText Import

/-! ## Sums over two lists -/

section Sums

variable {α β : Type} {l : List α} {l' : List β} {f p q : α → ℕ} {g : β → ℕ}

/-- Two sums whose terms differ by what is added to them. -/
theorem sum_add_sum_of_forall₂ (h : List.Forall₂ (fun a b => g b + p a = f a + q a) l l') :
    (l'.map g).sum + (l.map p).sum = (l.map f).sum + (l.map q).sum := by
  induction h with
  | nil => rfl
  | @cons a b l l' hab _ ih =>
    simp only [List.map_cons, List.sum_cons]
    omega

theorem sum_map_ite (P : α → Prop) [DecidablePred P] (l : List α) :
    (l.map fun a => if P a then 1 else 0).sum = l.countP fun a => P a := by
  induction l with
  | nil => rfl
  | cons a l ih =>
    simp only [List.map_cons, List.sum_cons, List.countP_cons, decide_eq_true_eq, ih]
    omega

end Sums

/-! ## Adding up counts -/

/-- A count that is added up. -/
structure IsCount (f : ConversationCounts → ℕ) : Prop where
  zero : f .zero = 0
  add : ∀ a b, f (a.add b) = f a + f b

variable {f : ConversationCounts → ℕ}

theorem IsCount.foldr (hf : IsCount f) (cs : List ConversationCounts) :
    f (cs.foldr ConversationCounts.add .zero) = (cs.map f).sum := by
  induction cs with
  | nil => exact hf.zero
  | cons c cs ih => rw [List.foldr_cons, hf.add, ih, List.map_cons, List.sum_cons]

theorem IsCount.foldl (hf : IsCount f) (cs : List ConversationCounts) (c : ConversationCounts) :
    f (cs.foldl ConversationCounts.add c) = f c + (cs.map f).sum := by
  induction cs generalizing c with
  | nil => rfl
  | cons d cs ih => rw [List.foldl_cons, ih, hf.add, List.map_cons, List.sum_cons, add_assoc]

theorem isCount_messageCount : IsCount ConversationCounts.messageCount := ⟨rfl, fun _ _ => rfl⟩

theorem isCount_attachmentReferenceCount : IsCount ConversationCounts.attachmentReferenceCount :=
  ⟨rfl, fun _ _ => rfl⟩

theorem isCount_malformedObjectCount : IsCount ConversationCounts.malformedObjectCount :=
  ⟨rfl, fun _ _ => rfl⟩

theorem isCount_unknownFieldCount : IsCount ConversationCounts.unknownFieldCount :=
  ⟨rfl, fun _ _ => rfl⟩

/-! ## Conversations that are counted alike -/

/-- The object stands for a message. -/
def isPrimary (o : SourceObject) : Bool :=
  o.native.kind = .message || o.native.kind = .unsupported || o.native.kind = .malformed

/-- The node has a message. -/
def carriesMessage : Json → Bool
  | .obj node => entry node (key "message") ≠ .null
  | _ => false

/-- The counts of the mapped conversation are those of the inventory, and each node with a message
has one object that stands for it. -/
structure CountedAlike (name : Str) (mapping : List (Str × Json)) (mapped : Mapped)
    (inventory : ConversationCounts) : Prop where
  nodeCount : mapped.2.nodeCount = inventory.nodeCount
  messageCount : mapped.2.messageCount = inventory.messageCount
  attachmentReferenceCount :
    mapped.2.attachmentReferenceCount = inventory.attachmentReferenceCount
  malformedObjectCount : mapped.2.malformedObjectCount = inventory.malformedObjectCount
  unknownFieldCount : mapped.2.unknownFieldCount = inventory.unknownFieldCount
  primary : ((mapped.1.filter isPrimary).map fun o => (o.native.conversation, o.native.path)).Perm
    ((mapping.filter fun e => carriesMessage e.2).map fun e => (name, [e.1]))
  supported : mapped.2.supportedMessageCount + mapped.2.unsupportedMessageCount =
    mapped.2.messageCount

/-- The attachments that a message refers to in its content and in its metadata. -/
def references (message : List (Str × Json)) : ℕ :=
  (match entry message (key "content") with
    | .obj content => attachmentReferenceCount (.obj content)
    | _ => 0) + attachmentReferenceCount (entry message (key "metadata"))

/-- No field of the value is unknown, if it is an object. -/
def NoUnknown (known : List String) (value : Json) : Prop :=
  ∀ entries, value = .obj entries → unknownKeys entries known = []

/-- No field of the node and of its message is unknown. -/
structure Known (rawNode : List (Str × Json)) : Prop where
  node : unknownKeys rawNode nodeKeys = []
  message : ∀ message, entry rawNode (key "message") = .obj message →
    unknownKeys message messageKeys = [] ∧ NoUnknown authorKeys (entry message (key "author")) ∧
      NoUnknown contentKeys (entry message (key "content"))

def IsObject (value : Json) : Prop := ∃ entries, value = .obj entries

section

variable [PythonLibrary] [HistoryLibrary]

/-- A node for which the mapping counts one malformed object more than the inventory: it has no message
but an unknown field, or a message that is refused though its author and its content are objects. -/
def MalformedOnlyMapped (name : Str) (mapping : List (Str × Json)) (e : Str × Json) : Prop :=
  ∃ node, e.2 = .obj node ∧
    (entry node (key "message") = .null ∧ unknownKeys node nodeKeys ≠ [] ∨
      Refused name mapping e.1 node ∧ ∃ message, entry node (key "message") = .obj message ∧
        IsObject (entry message (key "author")) ∧ IsObject (entry message (key "content")))

/-- A node for which the inventory counts one malformed object more than the mapping: the author and
the content of its message are no objects. -/
def MalformedTwice (name : Str) (mapping : List (Str × Json)) (e : Str × Json) : Prop :=
  ∃ node, e.2 = .obj node ∧ Refused name mapping e.1 node ∧
    ∃ message, entry node (key "message") = .obj message ∧
      ¬ IsObject (entry message (key "author")) ∧ ¬ IsObject (entry message (key "content"))

open Classical in
/-- The conversations that are counted alike. -/
structure AlikeWhen (name : Str) (mapping : List (Str × Json)) : Prop where
  objects : ∀ e ∈ mapping, ∀ node, e.2 = .obj node → entry node (key "message") ≠ .null →
    IsObject (entry node (key "message"))
  references : ∀ e ∈ mapping, ∀ node, e.2 = .obj node → Refused name mapping e.1 node →
    ∀ message, entry node (key "message") = .obj message → references message = 0
  known : ∀ e ∈ mapping, ∀ node, e.2 = .obj node → Refused name mapping e.1 node → Known node
  balanced : mapping.countP (fun e => MalformedOnlyMapped name mapping e) =
    mapping.countP fun e => MalformedTwice name mapping e

end

/-! ## The inventory of a node -/

theorem inventoryNode_null {node : List (Str × Json)} (h : entry node (key "message") = .null) :
    inventoryNode (.obj node) =
      { ConversationCounts.zero with unknownFieldCount := (unknownKeys node nodeKeys).length } := by
  rw [inventoryNode, h]

theorem inventoryNode_obj {node message : List (Str × Json)}
    (h : entry node (key "message") = .obj message) :
    inventoryNode (.obj node) = ConversationCounts.add
      { ConversationCounts.zero with unknownFieldCount := (unknownKeys node nodeKeys).length }
      (inventoryMessage message) := by
  rw [inventoryNode, h]

theorem inventoryNode_other {node : List (Str × Json)} (hnull : entry node (key "message") ≠ .null)
    (hobj : ¬ IsObject (entry node (key "message"))) :
    inventoryNode (.obj node) = { ConversationCounts.zero with
      malformedObjectCount := 1, unknownFieldCount := (unknownKeys node nodeKeys).length } := by
  rw [inventoryNode]
  split
  · rename_i h
    exact absurd h hnull
  · rename_i message h
    exact absurd ⟨message, h⟩ hobj
  · rfl

/-- The number of unknown fields of an author or a content. -/
def unknownOf (known : List String) : Json → ℕ
  | .obj entries => (unknownKeys entries known).length
  | _ => 0

/-- An author or a content is malformed if it is no object. -/
def malformedOf : Json → ℕ
  | .obj _ => 0
  | _ => 1

theorem unknownOf_eq_zero {known : List String} {value : Json} :
    unknownOf known value = 0 ↔ NoUnknown known value := by
  cases value <;> simp [unknownOf, NoUnknown]

theorem malformedOf_eq_zero {value : Json} : malformedOf value = 0 ↔ IsObject value := by
  cases value <;> simp [malformedOf, IsObject]

theorem malformedOf_le (value : Json) : malformedOf value ≤ 1 := by
  cases value <;> simp [malformedOf]

theorem inventoryMessage_eq (message : List (Str × Json)) :
    inventoryMessage message = { ConversationCounts.zero with
      messageCount := 1
      attachmentReferenceCount := references message
      malformedObjectCount := malformedOf (entry message (key "author")) +
        malformedOf (entry message (key "content"))
      unknownFieldCount := (unknownKeys message messageKeys).length +
        unknownOf authorKeys (entry message (key "author")) +
        unknownOf contentKeys (entry message (key "content")) } := by
  rw [inventoryMessage, references]
  cases entry message (key "author") <;> cases entry message (key "content") <;> rfl

/-! ## One node -/

section

variable [PythonLibrary] [HistoryLibrary]

open Classical in
/-- The message of the node, if it is no object: the inventory counts none. -/
noncomputable def lostMessage (e : Str × Json) : ℕ :=
  if ∃ node, e.2 = .obj node ∧ entry node (key "message") ≠ .null ∧
    ¬ IsObject (entry node (key "message")) then 1 else 0

open Classical in
/-- What the inventory counts of a node whose message is refused. -/
noncomputable def lost (count : ConversationCounts → ℕ) (name : Str) (mapping : List (Str × Json))
    (e : Str × Json) : ℕ :=
  if ∃ node, e.2 = .obj node ∧ Refused name mapping e.1 node then count (inventoryNode e.2) else 0

open Classical in
/-- How the counts of a node differ, when it is mapped and when it is only counted. -/
structure NodeCounts (name : Str) (mapping : List (Str × Json)) (e : Str × Json)
    (mapped : ConversationCounts) : Prop where
  nodeCount : mapped.nodeCount = 0 ∧ (inventoryNode e.2).nodeCount = 0
  messageCount : mapped.messageCount = (inventoryNode e.2).messageCount + lostMessage e
  attachmentReferenceCount : mapped.attachmentReferenceCount +
    lost ConversationCounts.attachmentReferenceCount name mapping e =
      (inventoryNode e.2).attachmentReferenceCount
  malformedObjectCount :
    mapped.malformedObjectCount + (if MalformedTwice name mapping e then 1 else 0) =
      (inventoryNode e.2).malformedObjectCount + if MalformedOnlyMapped name mapping e then 1 else 0
  unknownFieldCount :
    mapped.unknownFieldCount + lost ConversationCounts.unknownFieldCount name mapping e =
      (inventoryNode e.2).unknownFieldCount
  supported : mapped.supportedMessageCount + mapped.unsupportedMessageCount = mapped.messageCount

variable {name : Str} {mapping : List (Str × Json)} {index : ℕ} {nodeName : Str}
  {rawMessage : Json} {node : List (Str × Json)} {m : Mapped} {count : ConversationCounts → ℕ}

theorem lost_of_refused (h : Refused name mapping nodeName node) :
    lost count name mapping (nodeName, .obj node) = count (inventoryNode (.obj node)) :=
  if_pos ⟨node, rfl, h⟩

theorem lost_of_not_refused (h : ¬ Refused name mapping nodeName node) :
    lost count name mapping (nodeName, .obj node) = 0 := by
  refine if_neg ?_
  rintro ⟨node', hnode, hrefused⟩
  cases hnode
  exact h hrefused

omit [PythonLibrary] [HistoryLibrary] in
open Classical in
theorem lostMessage_eq_zero {e : Str × Json} : lostMessage e = 0 ↔
    ∀ node, e.2 = .obj node → entry node (key "message") ≠ .null →
      IsObject (entry node (key "message")) := by
  rw [lostMessage, ite_eq_right_iff]
  constructor
  · intro h node hnode hnull
    by_contra hobj
    exact absurd (h ⟨node, hnode, hnull, hobj⟩) one_ne_zero
  · rintro h ⟨node, hnode, hnull, hobj⟩
    exact absurd (h node hnode hnull) hobj

omit [PythonLibrary] [HistoryLibrary] in
theorem lostMessage_obj (h : entry node (key "message") ≠ .null →
    IsObject (entry node (key "message"))) : lostMessage (nodeName, .obj node) = 0 :=
  lostMessage_eq_zero.2 fun _ hnode => Value.obj.inj hnode ▸ h

theorem malformedTwice_obj : MalformedTwice name mapping (nodeName, .obj node) ↔
    Refused name mapping nodeName node ∧ ∃ message, entry node (key "message") = .obj message ∧
      ¬ IsObject (entry message (key "author")) ∧ ¬ IsObject (entry message (key "content")) := by
  constructor
  · rintro ⟨node', hnode, h⟩
    cases hnode
    exact h
  · exact fun h => ⟨node, rfl, h⟩

theorem malformedOnlyMapped_obj : MalformedOnlyMapped name mapping (nodeName, .obj node) ↔
    entry node (key "message") = .null ∧ unknownKeys node nodeKeys ≠ [] ∨
      Refused name mapping nodeName node ∧ ∃ message, entry node (key "message") = .obj message ∧
        IsObject (entry message (key "author")) ∧ IsObject (entry message (key "content")) := by
  constructor
  · rintro ⟨node', hnode, h⟩
    cases hnode
    exact h
  · exact fun h => ⟨node, rfl, h⟩

/-- A node without a message: its unknown fields make a malformed object of it only if it is mapped. -/
theorem nodeCounts_empty (h : entry node (key "message") = .null) :
    NodeCounts name mapping (nodeName, .obj node) (mapEmptyNode name nodeName node).2 := by
  have hrefused : ¬ Refused name mapping nodeName node := fun hrefused => hrefused.1 h
  have htwice : ¬ MalformedTwice name mapping (nodeName, .obj node) := fun hbad =>
    hrefused (malformedTwice_obj.1 hbad).1
  have honly : MalformedOnlyMapped name mapping (nodeName, .obj node) ↔
      unknownKeys node nodeKeys ≠ [] := by
    rw [malformedOnlyMapped_obj]
    exact ⟨fun hbad => hbad.elim And.right fun hbad => absurd hbad.1 hrefused,
      fun hbad => .inl ⟨h, hbad⟩⟩
  have hlost : lostMessage (nodeName, .obj node) = 0 := lostMessage_obj fun hnull => absurd h hnull
  constructor
  all_goals
    simp only [inventoryNode_null h, lost_of_not_refused hrefused, hlost, if_neg htwice, honly,
      mapEmptyNode, ConversationCounts.zero, and_self]
  case malformedObjectCount => by_cases hunknown : unknownKeys node nodeKeys = [] <;> simp [hunknown]
  all_goals rfl

/-- A message that is taken is counted alike. -/
theorem nodeCounts_message {parent : NativeId} (h : entry node (key "message") ≠ .null)
    (hparent : parentOf name mapping node = .ok parent)
    (hm : mapMessage name nodeName index parent (entry node (key "message")) node = .ok m) :
    NodeCounts name mapping (nodeName, .obj node) m.2 := by
  have hrefused : ¬ Refused name mapping nodeName node := by
    rintro ⟨-, hrefused⟩
    exact hrefused ⟨by rw [hparent]; rfl, exists_mapMessage_iff.1 ⟨m, hm⟩⟩
  have htwice : ¬ MalformedTwice name mapping (nodeName, .obj node) := fun hbad =>
    hrefused (malformedTwice_obj.1 hbad).1
  have honly : ¬ MalformedOnlyMapped name mapping (nodeName, .obj node) := fun hbad =>
    (malformedOnlyMapped_obj.1 hbad).elim (fun hbad => h hbad.1) fun hbad => hrefused hbad.1
  obtain ⟨f, supported, -, rfl⟩ := mapMessage_eq_ok.1 hm
  have hlost : lostMessage (nodeName, .obj node) = 0 :=
    lostMessage_obj fun _ => ⟨f.message, f.message_eq⟩
  have hinventory := inventoryNode_obj f.message_eq
  rw [inventoryMessage_eq, f.author_eq, f.content_eq] at hinventory
  constructor
  all_goals
    simp only [hinventory, lost_of_not_refused hrefused, hlost, if_neg htwice, if_neg honly,
      MessageFields.counts, ConversationCounts.zero, ConversationCounts.add, and_self]
  case attachmentReferenceCount =>
    rw [MessageFields.attachments, references, f.content_eq]
    dsimp only
    omega
  case malformedObjectCount => rfl
  case unknownFieldCount =>
    simp only [unknownMessageFields, unknownOf, List.length_append, List.length_map]
    omega
  case supported => cases supported <;> rfl

/-- A message that is refused counts as malformed, and for nothing else. -/
theorem nodeCounts_malformed (reason : String) (h : Refused name mapping nodeName node) :
    NodeCounts name mapping (nodeName, .obj node) (malformedMessage name nodeName reason).2 := by
  by_cases hobj : IsObject (entry node (key "message"))
  · obtain ⟨message, hmessage⟩ := hobj
    have hlost : lostMessage (nodeName, .obj node) = 0 := lostMessage_obj fun _ => ⟨message, hmessage⟩
    have htwice : MalformedTwice name mapping (nodeName, .obj node) ↔
        malformedOf (entry message (key "author")) ≠ 0 ∧
          malformedOf (entry message (key "content")) ≠ 0 := by
      rw [malformedTwice_obj, hmessage]
      simp only [h, true_and, Value.obj.injEq, exists_eq_left', malformedOf_eq_zero, ne_eq]
    have honly : MalformedOnlyMapped name mapping (nodeName, .obj node) ↔
        malformedOf (entry message (key "author")) = 0 ∧
          malformedOf (entry message (key "content")) = 0 := by
      rw [malformedOnlyMapped_obj, hmessage]
      simp only [h, true_and, Value.obj.injEq, exists_eq_left', malformedOf_eq_zero, reduceCtorEq,
        false_and, false_or]
    have hinventory := inventoryNode_obj hmessage
    rw [inventoryMessage_eq] at hinventory
    constructor
    all_goals
      simp only [lost_of_refused h, hinventory, hlost, htwice, honly, malformedMessage,
        ConversationCounts.zero, ConversationCounts.add, and_self]
    case malformedObjectCount =>
      have hauthor := malformedOf_le (entry message (key "author"))
      have hcontent := malformedOf_le (entry message (key "content"))
      split_ifs <;> omega
    all_goals omega
  · have hlost : lostMessage (nodeName, .obj node) = 1 := if_pos ⟨node, rfl, h.1, hobj⟩
    have htwice : ¬ MalformedTwice name mapping (nodeName, .obj node) := fun hbad =>
      have ⟨message, hmessage, _⟩ := (malformedTwice_obj.1 hbad).2
      hobj ⟨message, hmessage⟩
    have honly : ¬ MalformedOnlyMapped name mapping (nodeName, .obj node) := fun hbad =>
      (malformedOnlyMapped_obj.1 hbad).elim (fun hbad => h.1 hbad.1) fun hbad =>
        have ⟨message, hmessage, _⟩ := hbad.2
        hobj ⟨message, hmessage⟩
    constructor
    all_goals
      simp only [lost_of_refused h, inventoryNode_other h.1 hobj, hlost, if_neg htwice, if_neg honly,
        malformedMessage, ConversationCounts.zero, and_self]
    all_goals omega

theorem nodeCounts_of_nodeMapped (h : NodeMapped name mapping index nodeName node m) :
    NodeCounts name mapping (nodeName, .obj node) m.2 := by
  cases h with
  | empty h => exact nodeCounts_empty h
  | message h hparent hm => exact nodeCounts_message h hparent hm
  | malformed reason h => exact nodeCounts_malformed reason h

/-! ## The objects that stand for messages -/

/-- Where an object is in the history. -/
def place (o : SourceObject) : Str × List Str := (o.native.conversation, o.native.path)

omit [PythonLibrary] [HistoryLibrary] in
theorem carriesMessage_iff :
    carriesMessage (.obj node) = true ↔ entry node (key "message") ≠ .null := by
  rw [carriesMessage, decide_eq_true_iff]

theorem primary_of_message {f : MessageFields nodeName rawMessage} {supported : Option SourceObject}
    {parent : NativeId} (h : f.supported name index parent = .ok supported) :
    isPrimary (f.primary name parent supported) = true ∧
      place (f.primary name parent supported) = (name, [nodeName]) := by
  cases supported with
  | none => exact ⟨rfl, rfl⟩
  | some o =>
    obtain ⟨_, _, _, -, -, rfl⟩ := f.supported_eq_some.1 h
    exact ⟨rfl, rfl⟩

theorem not_isPrimary_others {f : MessageFields nodeName rawMessage} {supported : Option SourceObject} :
    ∀ o ∈ f.others name node supported, isPrimary o = false := by
  intro o ho
  rw [MessageFields.others, List.mem_append] at ho
  rcases ho with ho | ho
  all_goals
    split_ifs at ho
    · exact absurd ho List.not_mem_nil
    · rw [List.mem_singleton.1 ho]
      rfl

/-- One object stands for each message. -/
theorem primary_of_nodeMapped (h : NodeMapped name mapping index nodeName node m) :
    (m.1.filter isPrimary).map place =
      if carriesMessage (.obj node) = true then [(name, [nodeName])] else [] := by
  cases h with
  | empty h =>
    rw [if_neg (fun hcarries => carriesMessage_iff.1 hcarries h), mapEmptyNode]
    dsimp only
    split_ifs <;> rfl
  | message h _ hm =>
    obtain ⟨f, supported, hsupported, rfl⟩ := mapMessage_eq_ok.1 hm
    obtain ⟨hprimary, hplace⟩ := primary_of_message hsupported
    have hothers : (f.others name node supported).filter isPrimary = [] :=
      List.filter_eq_nil_iff.2 fun o ho => by simp [not_isPrimary_others o ho]
    rw [if_pos (carriesMessage_iff.2 h), List.filter_cons_of_pos hprimary, hothers, List.map_singleton,
      hplace]
  | malformed reason h =>
    rw [if_pos (carriesMessage_iff.2 h.1)]
    rfl

theorem primary_of_nodes {nodes : List (Str × Json)} {ms : List Mapped}
    (h : List.Forall₂ (fun e m => ∃ node index, e.2 = .obj node ∧
      NodeMapped name mapping index e.1 node m) nodes ms) :
    ((ms.flatMap Prod.fst).filter isPrimary).map place =
      (nodes.filter fun e => carriesMessage e.2).map fun e => (name, [e.1]) := by
  induction h with
  | nil => rfl
  | @cons e m nodes ms hem _ ih =>
    obtain ⟨node, index, hnode, hmapped⟩ := hem
    rw [List.flatMap_cons, List.filter_append, List.map_append, ih, primary_of_nodeMapped hmapped,
      List.filter_cons, hnode]
    split_ifs <;> rfl

/-! ## The whole conversation -/

/-- What a conversation is mapped to. -/
theorem mapConversation_eq_ok {conversation : List (Str × Json)} {mapped : Mapped}
    (hmapping : entry conversation (key "mapping") = .obj mapping)
    (h : mapConversation conversation name = .ok mapped) :
    ∃ (ms : List Mapped) (before : List SourceObject),
      List.Forall₂ (fun e m => ∃ node index, e.2 = .obj node ∧
        NodeMapped name mapping index e.1 node m) (mapping.insertionSort fun a b => a.1.le b.1) ms ∧
      (∀ o ∈ before, isPrimary o = false) ∧
      mapped = (before ++ ms.flatMap Prod.fst, ConversationCounts.add { ConversationCounts.zero with
        nodeCount := mapping.length
        unknownFieldCount := (unknownKeys conversation conversationKeys).length }
          ((ms.map Prod.snd).foldr ConversationCounts.add .zero)) := by
  obtain ⟨title, -, h⟩ := bind_eq_ok.1 h
  obtain ⟨createdAt, -, h⟩ := bind_eq_ok.1 h
  obtain ⟨mapping', hmapping', h⟩ := bind_eq_ok.1 h
  obtain ⟨currentNode, -, h⟩ := bind_eq_ok.1 h
  obtain ⟨⟨nodes, counts⟩, hnodes, h⟩ := bind_eq_ok.1 h
  obtain rfl := Value.obj.inj ((object_eq_ok.1 hmapping').symm.trans hmapping)
  obtain ⟨ms, hms, heq⟩ := exists_of_mapNodes hnodes
  cases heq
  refine ⟨ms, _, hms, ?_, (pure_eq_ok.1 h).symm⟩
  intro o ho
  rcases List.mem_cons.1 ho with rfl | ho
  · rfl
  · split_ifs at ho
    · exact absurd ho List.not_mem_nil
    · rw [List.mem_singleton.1 ho]
      rfl

theorem primary_mapConversation {conversation : List (Str × Json)} {mapped : Mapped}
    (hmapping : entry conversation (key "mapping") = .obj mapping)
    (h : mapConversation conversation name = .ok mapped) :
    ((mapped.1.filter isPrimary).map place).Perm
      ((mapping.filter fun e => carriesMessage e.2).map fun e => (name, [e.1])) := by
  obtain ⟨ms, before, hms, hbefore, rfl⟩ := mapConversation_eq_ok hmapping h
  have hnone : before.filter isPrimary = [] :=
    List.filter_eq_nil_iff.2 fun o ho => by simp [hbefore o ho]
  rw [List.filter_append, hnone, List.nil_append, primary_of_nodes hms]
  exact ((List.perm_insertionSort _ mapping).filter _).map _

theorem supported_mapConversation {conversation : List (Str × Json)} {mapped : Mapped}
    (hmapping : entry conversation (key "mapping") = .obj mapping)
    (h : mapConversation conversation name = .ok mapped) :
    mapped.2.supportedMessageCount + mapped.2.unsupportedMessageCount = mapped.2.messageCount := by
  obtain ⟨ms, before, hms, -, rfl⟩ := mapConversation_eq_ok hmapping h
  have hsums : (ms.map fun m => m.2.supportedMessageCount + m.2.unsupportedMessageCount).sum =
      (ms.map fun m => m.2.messageCount).sum := by
    clear h
    generalize mapping.insertionSort (fun a b => a.1.le b.1) = nodes at hms
    induction hms with
    | nil => rfl
    | @cons e m nodes ms hem _ ih =>
      obtain ⟨node, index, -, hmapped⟩ := hem
      rw [List.map_cons, List.sum_cons, (nodeCounts_of_nodeMapped hmapped).supported, ih, List.map_cons,
        List.sum_cons]
  have hboth : IsCount fun c => c.supportedMessageCount + c.unsupportedMessageCount :=
    ⟨rfl, fun a b => by simp only [ConversationCounts.add]; omega⟩
  have hleft := hboth.foldr (ms.map Prod.snd)
  have hright := isCount_messageCount.foldr (ms.map Prod.snd)
  rw [List.map_map] at hleft hright
  simp only [Function.comp_def] at hleft hright
  simp only [ConversationCounts.add, ConversationCounts.zero, zero_add] at hleft hright ⊢
  rw [hleft, hright, hsums]

open Classical in
theorem lost_eq_zero {e : Str × Json} : lost count name mapping e = 0 ↔
    ∀ node, e.2 = .obj node → Refused name mapping e.1 node → count (inventoryNode (.obj node)) = 0 := by
  obtain ⟨nodeName, rawNode⟩ := e
  constructor
  · rintro h node rfl hrefused
    rwa [lost_of_refused hrefused] at h
  · intro h
    rw [lost, ite_eq_right_iff]
    rintro ⟨node, rfl, hrefused⟩
    exact h node rfl hrefused

omit [PythonLibrary] [HistoryLibrary] in
theorem attachments_inventoryNode_eq_zero (h : entry node (key "message") ≠ .null) :
    (inventoryNode (.obj node)).attachmentReferenceCount = 0 ↔
      ∀ message, entry node (key "message") = .obj message → references message = 0 := by
  by_cases hobj : IsObject (entry node (key "message"))
  · obtain ⟨message, hmessage⟩ := hobj
    rw [inventoryNode_obj hmessage, inventoryMessage_eq, hmessage]
    simp only [ConversationCounts.add, ConversationCounts.zero, zero_add, Value.obj.injEq, forall_eq']
  · rw [inventoryNode_other h hobj]
    exact ⟨fun _ message hmessage => absurd ⟨message, hmessage⟩ hobj, fun _ => rfl⟩

omit [PythonLibrary] [HistoryLibrary] in
theorem unknown_inventoryNode_eq_zero (h : entry node (key "message") ≠ .null) :
    (inventoryNode (.obj node)).unknownFieldCount = 0 ↔ Known node := by
  by_cases hobj : IsObject (entry node (key "message"))
  · obtain ⟨message, hmessage⟩ := hobj
    rw [inventoryNode_obj hmessage, inventoryMessage_eq]
    simp only [ConversationCounts.add, ConversationCounts.zero, Nat.add_eq_zero_iff,
      List.length_eq_zero_iff, unknownOf_eq_zero]
    constructor
    · rintro ⟨hnode, ⟨hfields, hauthor⟩, hcontent⟩
      refine ⟨hnode, fun message' hmessage' => ?_⟩
      obtain rfl := Value.obj.inj (hmessage.symm.trans hmessage')
      exact ⟨hfields, hauthor, hcontent⟩
    · rintro ⟨hnode, hknown⟩
      obtain ⟨hfields, hauthor, hcontent⟩ := hknown message hmessage
      exact ⟨hnode, ⟨hfields, hauthor⟩, hcontent⟩
  · rw [inventoryNode_other h hobj]
    constructor
    · exact fun hnode => ⟨List.length_eq_zero_iff.1 hnode,
        fun message hmessage => absurd ⟨message, hmessage⟩ hobj⟩
    · exact fun hknown => List.length_eq_zero_iff.2 hknown.node

/-- A count of a conversation, when it is mapped and when it is only counted. -/
theorem count_add_sum {conversation : List (Str × Json)} {mapped : Mapped}
    {inventory : ConversationCounts} {p q : Str × Json → ℕ}
    (hmapping : entry conversation (key "mapping") = .obj mapping)
    (hmapped : mapConversation conversation name = .ok mapped)
    (hinventory : inventoryConversation conversation = .ok inventory) (hcount : IsCount count)
    (hnodes : ∀ e counts, NodeCounts name mapping e counts →
      count counts + p e = count (inventoryNode e.2) + q e) :
    count mapped.2 + (mapping.map p).sum = count inventory + (mapping.map q).sum := by
  obtain ⟨ms, before, hms, -, rfl⟩ := mapConversation_eq_ok hmapping hmapped
  obtain ⟨mapping', hmapping', hinventory⟩ := bind_eq_ok.1 hinventory
  obtain rfl := Value.obj.inj ((object_eq_ok.1 hmapping').symm.trans hmapping)
  obtain rfl := pure_eq_ok.1 hinventory
  have hperm := List.perm_insertionSort (fun a b : Str × Json => a.1.le b.1) mapping'
  have hsums : List.Forall₂ (fun e m => count (Prod.snd m) + p e = count (inventoryNode e.2) + q e)
      (mapping'.insertionSort fun a b => a.1.le b.1) ms := by
    refine hms.imp ?_
    rintro ⟨nodeName, rawNode⟩ m ⟨node, index, hnode, hmapped⟩
    cases hnode
    exact hnodes _ _ (nodeCounts_of_nodeMapped hmapped)
  have hsum := sum_add_sum_of_forall₂ hsums
  rw [(hperm.map p).sum_eq, (hperm.map q).sum_eq,
    (hperm.map fun e => count (inventoryNode e.2)).sum_eq] at hsum
  rw [hcount.add, hcount.foldr, hcount.foldl, List.map_map, List.map_map]
  simp only [Function.comp_def] at hsum ⊢
  omega

open Classical in
theorem countedAlike_iff {conversation : List (Str × Json)} {mapped : Mapped}
    {inventory : ConversationCounts} (hmapping : entry conversation (key "mapping") = .obj mapping)
    (hmapped : mapConversation conversation name = .ok mapped)
    (hinventory : inventoryConversation conversation = .ok inventory) :
    CountedAlike name mapping mapped inventory ↔ AlikeWhen name mapping := by
  have hzero : ∀ p : Str × Json → ℕ, (mapping.map p).sum = 0 ↔ ∀ e ∈ mapping, p e = 0 := fun p => by
    rw [List.sum_eq_zero_iff, List.forall_mem_map]
  have hnone : (mapping.map fun _ => 0).sum = 0 := (hzero _).2 fun _ _ => rfl
  have hsum (count : ConversationCounts → ℕ) (p q : Str × Json → ℕ) (hcount : IsCount count)
      (hnodes : ∀ e counts, NodeCounts name mapping e counts →
        count counts + p e = count (inventoryNode e.2) + q e) :
      count mapped.2 + (mapping.map p).sum = count inventory + (mapping.map q).sum :=
    count_add_sum hmapping hmapped hinventory hcount hnodes
  have hnodes := hsum ConversationCounts.nodeCount (fun _ => 0) (fun _ => 0) ⟨rfl, fun _ _ => rfl⟩
    fun e counts h => by rw [h.nodeCount.1, h.nodeCount.2]
  have hmessages := hsum _ (fun _ => 0) _ isCount_messageCount fun e counts h => h.messageCount
  have hattachments := hsum _ _ (fun _ => 0) isCount_attachmentReferenceCount fun e counts h =>
    h.attachmentReferenceCount
  have hunknown := hsum _ _ (fun _ => 0) isCount_unknownFieldCount fun e counts h =>
    h.unknownFieldCount
  have hmalformed := hsum _ _ _ isCount_malformedObjectCount fun e counts h => h.malformedObjectCount
  rw [sum_map_ite, sum_map_ite] at hmalformed
  rw [hnone] at hmessages hattachments hunknown
  have hobjects := hzero lostMessage
  have hreferences := hzero (lost ConversationCounts.attachmentReferenceCount name mapping)
  have hknown := hzero (lost ConversationCounts.unknownFieldCount name mapping)
  simp only [lostMessage_eq_zero] at hobjects
  simp only [lost_eq_zero] at hreferences hknown
  constructor
  · intro h
    have hmessageCount := h.messageCount
    have hattachmentCount := h.attachmentReferenceCount
    have hunknownCount := h.unknownFieldCount
    have hmalformedCount := h.malformedObjectCount
    refine ⟨hobjects.1 (by omega), ?_, ?_, by omega⟩
    · intro e he node hnode hrefused
      exact (attachments_inventoryNode_eq_zero hrefused.1).1
        (hreferences.1 (by omega) e he node hnode hrefused)
    · intro e he node hnode hrefused
      exact (unknown_inventoryNode_eq_zero hrefused.1).1
        (hknown.1 (by omega) e he node hnode hrefused)
  · intro h
    have hmessageCount := hobjects.2 h.objects
    have hattachmentCount := hreferences.2 fun e he node hnode hrefused =>
      (attachments_inventoryNode_eq_zero hrefused.1).2 (h.references e he node hnode hrefused)
    have hunknownCount := hknown.2 fun e he node hnode hrefused =>
      (unknown_inventoryNode_eq_zero hrefused.1).2 (h.known e he node hnode hrefused)
    have hbalanced := h.balanced
    exact ⟨by omega, by omega, by omega, by omega, by omega, primary_mapConversation hmapping hmapped,
      supported_mapConversation hmapping hmapped⟩

end

/-! ## One message -/

section Runs

attribute [local instance] asciiLibrary exampleHistory

def oneMessage (message : List (Str × Json)) : List (Str × Json) :=
  [(key "n", .obj [(key "message", .obj message)])]

def textMessage : List (Str × Json) :=
  [(key "author", .obj [(key "role", .str (key "user"))]),
    (key "content", .obj [(key "content_type", .str (key "text")),
      (key "parts", .arr [.str (key "a")])])]

/-- A message without an author and without a content is one malformed object when it is mapped, and two
when it is counted. -/
theorem not_countedAlike : ¬ ∀ (conversation : List (Str × Json)) (name : Str)
    (mapping : List (Str × Json)) (mapped : Mapped) (inventory : ConversationCounts),
    entry conversation (key "mapping") = .obj mapping →
      mapConversation conversation name = .ok mapped →
        inventoryConversation conversation = .ok inventory →
          CountedAlike name mapping mapped inventory := by
  intro h
  let conversation := [(key "mapping", Value.obj (oneMessage []))]
  have hmap : (mapConversation conversation (key "c")).map (fun m => m.2.malformedObjectCount) = .ok 1 := by
    decide
  have hcount : (inventoryConversation conversation).map
      ConversationCounts.malformedObjectCount = .ok 2 := by
    decide
  cases hmapped : mapConversation conversation (key "c") with
  | error e =>
    rw [hmapped] at hmap
    cases hmap
  | ok mapped =>
    cases hinventory : inventoryConversation conversation with
    | error e =>
      rw [hinventory] at hcount
      cases hcount
    | ok inventory =>
      rw [hmapped] at hmap
      rw [hinventory] at hcount
      have halike := (h conversation (key "c") (oneMessage []) mapped inventory (by decide) hmapped
        hinventory).malformedObjectCount
      have hone : mapped.2.malformedObjectCount = 1 := Except.ok.inj hmap
      have htwo : inventory.malformedObjectCount = 2 := Except.ok.inj hcount
      omega

theorem countedAlike_iff_textMessage : ∃ mapped inventory,
    mapConversation [(key "mapping", .obj (oneMessage textMessage))] (key "c") = .ok mapped ∧
      inventoryConversation [(key "mapping", .obj (oneMessage textMessage))] = .ok inventory ∧
        (CountedAlike (key "c") (oneMessage textMessage) mapped inventory ↔
          AlikeWhen (key "c") (oneMessage textMessage)) := by
  have hmap : (mapConversation [(key "mapping", .obj (oneMessage textMessage))] (key "c")).isOk = true := by
    decide
  have hcount : (inventoryConversation [(key "mapping", .obj (oneMessage textMessage))]).isOk = true := by
    decide
  obtain ⟨mapped, hmapped⟩ := exists_of_isOk hmap
  obtain ⟨inventory, hinventory⟩ := exists_of_isOk hcount
  exact ⟨mapped, inventory, hmapped, hinventory,
    countedAlike_iff (by decide) hmapped hinventory⟩

end Runs

end DollState.History.ChatGPT
