import DollState.History.ChatGPT

/-!
# The messages of a ChatGPT export

Which nodes `_map_conversation` maps as a message, as a malformed object or as none, and what a message
is mapped to. Whether the checks of `_map_message` take a message (`MessageOk`) depends on the message
and the name of its node alone, not on where the node is in the conversation.
-/

namespace DollState.History.ChatGPT

open StateLib JsonText Import

/-! ## Checks that return what they are given -/

theorem object_eq_ok {name : String} {value : Json} {entries : List (Str × Json)} :
    object name value = .ok entries ↔ value = .obj entries := by
  cases value <;> simp [object]

theorem list_eq_ok {name : String} {value : Json} {items : List Json} :
    list name value = .ok items ↔ value = .arr items := by
  cases value <;> simp [list]

theorem text_eq_ok {name : String} {maximum : Nat} {value : Json} {s : Str} :
    text name maximum value = .ok s ↔ value = .str s ∧ s ≠ [] ∧ s.length ≤ maximum := by
  cases value with
  | str t =>
    simp only [text, check_bind_eq_ok, ensure_eq_ok, pure_eq_ok, Value.str.injEq]
    constructor
    · rintro ⟨h, rfl⟩
      exact ⟨rfl, h⟩
    · rintro ⟨rfl, h⟩
      exact ⟨h, rfl⟩
  | _ => simp [text]

theorem identifier_eq_ok {name : String} {value : Json} {s : Str} :
    identifier name value = .ok s ↔
      value = .str s ∧ s ≠ [] ∧ s.length ≤ 256 ∧ s.any isControl = false := by
  simp only [identifier, bind_eq_ok, text_eq_ok, ensure_eq_ok, pure_eq_ok, exists_const]
  constructor
  · rintro ⟨t, ⟨hvalue, hne, hlength⟩, hcontrol, rfl⟩
    exact ⟨hvalue, hne, hlength, hcontrol⟩
  · rintro ⟨hvalue, hne, hlength, hcontrol⟩
    exact ⟨s, ⟨hvalue, hne, hlength⟩, hcontrol, rfl⟩

section

variable [PythonLibrary] [HistoryLibrary]

/-! ## The fields of a message -/

/-- What `_map_message` reads of a message, whatever kind of message it is. -/
structure MessageFields (nodeName : Str) (rawMessage : Json) where
  message : List (Str × Json)
  messageName : Option Str
  author : List (Str × Json)
  role : Str
  content : List (Str × Json)
  contentType : Str
  occurredAt : Option Text
  message_eq : rawMessage = .obj message
  nodeName_ok : identifier "node id" (.str nodeName) = .ok nodeName
  messageName_eq : optionalIdentifier "message id" (entry message (key "id")) = .ok messageName
  author_eq : entry message (key "author") = .obj author
  role_eq : text "message role" 64 (entry author (key "role")) = .ok role
  content_eq : entry message (key "content") = .obj content
  contentType_eq : text "content type" 128 (entry content (key "content_type")) = .ok contentType
  occurredAt_eq :
    optionalTimestamp "message create time" (entry message (key "create_time")) = .ok occurredAt

variable {nodeName : Str} {rawMessage : Json}

namespace MessageFields

/-- The references to attachments. -/
def attachments (f : MessageFields nodeName rawMessage) : Nat :=
  attachmentReferenceCount (.obj f.content) +
    attachmentReferenceCount (entry f.message (key "metadata"))

/-- The source object of the message, if it is mapped as text. -/
def supported (f : MessageFields nodeName rawMessage) (conversation : Str) (index : Nat)
    (parent : NativeId) : Staged (Option SourceObject) :=
  supportedMessage conversation nodeName index parent f.message f.author f.content f.role
    f.contentType f.occurredAt f.messageName

/-- The object that stands for the message. -/
def primary (f : MessageFields nodeName rawMessage) (conversation : Str) (parent : NativeId)
    (supported : Option SourceObject) : SourceObject :=
  supported.getD
    { native := nodeId .unsupported arity_unsupported conversation nodeName
      sourceType := "chatgpt-unsupported-message"
      parents := [parent]
      payload := [(key "occurred_at", ofStr? (f.occurredAt.map Str.ofText)),
        (key "source_role", .str f.role), (key "source_node_id", .str nodeName),
        (key "source_message_id", ofStr? f.messageName),
        (key "source_content_type", .str f.contentType),
        (key "attachment_reference_count", .int f.attachments)] }

/-- The object that the others of the message belong to. -/
def holder (_ : MessageFields nodeName rawMessage) (conversation : Str)
    (supported : Option SourceObject) : NativeId :=
  if supported.isSome then nodeId .message arity_message conversation nodeName
  else conversationId conversation

/-- The other objects of the message. -/
def others (f : MessageFields nodeName rawMessage) (conversation : Str) (node : List (Str × Json))
    (supported : Option SourceObject) : List SourceObject :=
  (if f.attachments = 0 then [] else
    [{ native := nodeId .attachmentReference arity_attachmentReference conversation nodeName
       sourceType := "chatgpt-attachment-reference"
       parents := [f.holder conversation supported]
       payload := [(key "source_node_id", .str nodeName),
         (key "attachment_reference_count", .int f.attachments)] }]) ++
  if unknownMessageFields node f.message f.author f.content = [] then [] else
    [unsupportedObject (nodeId .messageFields arity_messageFields conversation nodeName) "message"
      (unknownMessageFields node f.message f.author f.content) (f.holder conversation supported)]

def counts (f : MessageFields nodeName rawMessage) (node : List (Str × Json))
    (supported : Option SourceObject) : ConversationCounts :=
  { ConversationCounts.zero with
    messageCount := 1
    selectedMessageCount := 1
    supportedMessageCount := if supported.isSome then 1 else 0
    unsupportedMessageCount := if supported.isSome then 0 else 1
    attachmentReferenceCount := f.attachments
    unknownFieldCount := (unknownMessageFields node f.message f.author f.content).length }

end MessageFields

theorem mapMessage_eq_ok {conversation : Str} {index : Nat} {parent : NativeId}
    {node : List (Str × Json)} {m : Mapped} :
    mapMessage conversation nodeName index parent rawMessage node = .ok m ↔
      ∃ (f : MessageFields nodeName rawMessage) (supported : Option SourceObject),
        f.supported conversation index parent = .ok supported ∧
          m = (f.primary conversation parent supported ::
            f.others conversation node supported, f.counts node supported) := by
  constructor
  · intro h
    obtain ⟨message, hmessage, h⟩ := bind_eq_ok.1 h
    obtain ⟨name, hname, h⟩ := bind_eq_ok.1 h
    obtain ⟨messageName, hmessageName, h⟩ := bind_eq_ok.1 h
    obtain ⟨author, hauthor, h⟩ := bind_eq_ok.1 h
    obtain ⟨role, hrole, h⟩ := bind_eq_ok.1 h
    obtain ⟨content, hcontent, h⟩ := bind_eq_ok.1 h
    obtain ⟨contentType, hcontentType, h⟩ := bind_eq_ok.1 h
    obtain ⟨occurredAt, hoccurredAt, h⟩ := bind_eq_ok.1 h
    obtain ⟨supported, hsupported, h⟩ := bind_eq_ok.1 h
    obtain rfl : nodeName = name := Value.str.inj (identifier_eq_ok.1 hname).1
    refine ⟨⟨message, messageName, author, role, content, contentType, occurredAt,
      object_eq_ok.1 hmessage, hname, hmessageName, object_eq_ok.1 hauthor, hrole,
      object_eq_ok.1 hcontent, hcontentType, hoccurredAt⟩, supported, hsupported, ?_⟩
    exact (pure_eq_ok.1 h).symm
  · rintro ⟨f, supported, hsupported, rfl⟩
    refine bind_eq_ok.2 ⟨_, object_eq_ok.2 f.message_eq, ?_⟩
    refine bind_eq_ok.2 ⟨_, f.nodeName_ok, ?_⟩
    refine bind_eq_ok.2 ⟨_, f.messageName_eq, ?_⟩
    refine bind_eq_ok.2 ⟨_, object_eq_ok.2 f.author_eq, ?_⟩
    refine bind_eq_ok.2 ⟨_, f.role_eq, ?_⟩
    refine bind_eq_ok.2 ⟨_, object_eq_ok.2 f.content_eq, ?_⟩
    refine bind_eq_ok.2 ⟨_, f.contentType_eq, ?_⟩
    refine bind_eq_ok.2 ⟨_, f.occurredAt_eq, ?_⟩
    exact bind_eq_ok.2 ⟨supported, hsupported, rfl⟩

/-! ## Texts -/

/-- The checks of the fields that only a text has. -/
structure PayloadOk (message author : List (Str × Json)) (parts : List Str) : Prop where
  length : ([CodePoint.scalar '\n'].intercalate parts).length ≤ maxTextLength
  name : (optionalText "author name" 256 (entry author (key "name"))).isOk = true
  status : (optionalText "message status" 128 (entry message (key "status"))).isOk = true
  model : (optionalText "source model" 256
    (metadataValue (entry message (key "metadata")) "model_slug")).isOk = true

omit [PythonLibrary] [HistoryLibrary] in
theorem exists_messagePayload_iff {message author : List (Str × Json)} {index : Nat}
    {role contentType : Str} {occurredAt : Option Text} {messageName : Option Str}
    {parts : List Str} :
    (∃ payload, messagePayload message author nodeName index role contentType occurredAt messageName
      parts = .ok payload) ↔ PayloadOk message author parts := by
  constructor
  · rintro ⟨payload, h⟩
    obtain ⟨hlength, h⟩ := (check_bind_eq_ok.1 h).imp_left ensure_eq_ok.1
    obtain ⟨name, hname, h⟩ := bind_eq_ok.1 h
    obtain ⟨status, hstatus, h⟩ := bind_eq_ok.1 h
    obtain ⟨model, hmodel, -⟩ := bind_eq_ok.1 h
    exact ⟨hlength, by rw [hname]; rfl, by rw [hstatus]; rfl, by rw [hmodel]; rfl⟩
  · rintro ⟨hlength, hname, hstatus, hmodel⟩
    obtain ⟨name, hname⟩ := exists_of_isOk hname
    obtain ⟨status, hstatus⟩ := exists_of_isOk hstatus
    obtain ⟨model, hmodel⟩ := exists_of_isOk hmodel
    exact ⟨_, check_bind_eq_ok.2 ⟨ensure_of hlength _, bind_eq_ok.2 ⟨name, hname,
      bind_eq_ok.2 ⟨status, hstatus, bind_eq_ok.2 ⟨model, hmodel, rfl⟩⟩⟩⟩⟩

/-- A message that `_map_message` maps as text: its role is supported, and its content is of the type
`text` and has texts for its parts. -/
structure MessageFields.IsText (f : MessageFields nodeName rawMessage) (sourceType : String)
    (parts : List Str) : Prop where
  role : roleToSourceType f.role = some sourceType
  contentType : f.contentType = key "text"
  parts : ∃ items, entry f.content (key "parts") = .arr items ∧ textParts items = some parts

theorem MessageFields.supported_eq_some {f : MessageFields nodeName rawMessage} {conversation : Str}
    {index : Nat} {parent : NativeId} {o : SourceObject} :
    f.supported conversation index parent = .ok (some o) ↔
      ∃ sourceType parts payload, f.IsText sourceType parts ∧
        messagePayload f.message f.author nodeName index f.role f.contentType f.occurredAt
          f.messageName parts = .ok payload ∧
        o = ⟨nodeId .message rfl conversation nodeName, sourceType, [parent], payload⟩ := by
  rw [supported, supportedMessage]
  cases hrole : roleToSourceType f.role with
  | none =>
    constructor
    · intro h
      cases h
    · rintro ⟨sourceType, parts, payload, hText, -⟩
      cases hrole.symm.trans hText.role
  | some sourceType =>
    dsimp only
    by_cases hcontent : f.contentType = key "text"
    · rw [if_pos hcontent]
      constructor
      · intro h
        obtain ⟨items, hitems, h⟩ := bind_eq_ok.1 h
        cases hparts : textParts items with
        | none =>
          rw [hparts] at h
          cases h
        | some parts =>
          rw [hparts] at h
          obtain ⟨payload, hpayload, h⟩ := bind_eq_ok.1 h
          exact ⟨sourceType, parts, payload, ⟨hrole, hcontent, items, list_eq_ok.1 hitems, hparts⟩,
            hpayload, (Option.some.inj (pure_eq_ok.1 h)).symm⟩
      · rintro ⟨sourceType', parts, payload, ⟨hrole', -, items, hitems, hparts⟩, hpayload, rfl⟩
        obtain rfl := Option.some.inj (hrole.symm.trans hrole')
        refine bind_eq_ok.2 ⟨items, list_eq_ok.2 hitems, ?_⟩
        rw [hparts]
        exact bind_eq_ok.2 ⟨payload, hpayload, rfl⟩
    · rw [if_neg hcontent]
      constructor
      · intro h
        cases h
      · rintro ⟨_, _, _, hText, -⟩
        exact absurd hText.contentType hcontent

theorem MessageFields.supported_eq_none {f : MessageFields nodeName rawMessage} {conversation : Str}
    {index : Nat} {parent : NativeId} :
    f.supported conversation index parent = .ok none ↔
      ((roleToSourceType f.role).isSome = true → f.contentType = key "text" →
        ∃ items, entry f.content (key "parts") = .arr items ∧ textParts items = none) := by
  rw [supported, supportedMessage]
  cases hrole : roleToSourceType f.role with
  | none => simp
  | some sourceType =>
    dsimp only
    by_cases hcontent : f.contentType = key "text"
    · rw [if_pos hcontent]
      constructor
      · intro h _ _
        obtain ⟨items, hitems, h⟩ := bind_eq_ok.1 h
        refine ⟨items, list_eq_ok.1 hitems, ?_⟩
        cases hparts : textParts items with
        | none => rfl
        | some parts =>
          rw [hparts] at h
          obtain ⟨payload, -, h⟩ := bind_eq_ok.1 h
          cases h
      · intro h
        obtain ⟨items, hitems, hparts⟩ := h rfl hcontent
        refine bind_eq_ok.2 ⟨items, list_eq_ok.2 hitems, ?_⟩
        rw [hparts]
        rfl
    · rw [if_neg hcontent]
      exact ⟨fun _ _ h => absurd h hcontent, fun _ => rfl⟩

/-- A message that the checks of `_map_message` take. -/
def MessageOk (nodeName : Str) (rawMessage : Json) : Prop :=
  ∃ f : MessageFields nodeName rawMessage,
    (roleToSourceType f.role).isSome = true → f.contentType = key "text" →
      ∃ items, entry f.content (key "parts") = .arr items ∧
        ∀ parts, textParts items = some parts → PayloadOk f.message f.author parts

theorem exists_mapMessage_iff {conversation : Str} {index : Nat} {parent : NativeId}
    {node : List (Str × Json)} :
    (∃ m, mapMessage conversation nodeName index parent rawMessage node = .ok m) ↔
      MessageOk nodeName rawMessage := by
  simp only [mapMessage_eq_ok]
  constructor
  · rintro ⟨m, f, supported, hsupported, -⟩
    refine ⟨f, fun hrole hcontent => ?_⟩
    cases supported with
    | none =>
      obtain ⟨items, hitems, hparts⟩ := f.supported_eq_none.1 hsupported hrole hcontent
      exact ⟨items, hitems, fun parts h => by cases hparts.symm.trans h⟩
    | some o =>
      obtain ⟨_, parts, payload, ⟨-, -, items, hitems, hparts⟩, hpayload, -⟩ :=
        f.supported_eq_some.1 hsupported
      refine ⟨items, hitems, fun parts' h => ?_⟩
      obtain rfl := Option.some.inj (hparts.symm.trans h)
      exact exists_messagePayload_iff.1 ⟨payload, hpayload⟩
  · rintro ⟨f, hok⟩
    by_cases htext : ∃ sourceType parts, f.IsText sourceType parts
    · obtain ⟨sourceType, parts, hText⟩ := htext
      obtain ⟨items, hitems, hparts⟩ := hText.parts
      obtain ⟨items', hitems', hpayload⟩ := hok (by rw [hText.role]; rfl) hText.contentType
      obtain rfl := Value.arr.inj (hitems.symm.trans hitems')
      obtain ⟨payload, hpayload⟩ := exists_messagePayload_iff.2 (hpayload parts hparts)
      exact ⟨_, f, _, f.supported_eq_some.2 ⟨_, _, payload, hText, hpayload, rfl⟩, rfl⟩
    · refine ⟨_, f, none, f.supported_eq_none.2 fun hrole hcontent => ?_, rfl⟩
      obtain ⟨items, hitems, -⟩ := hok hrole hcontent
      obtain ⟨sourceType, hrole⟩ := Option.isSome_iff_exists.1 hrole
      refine ⟨items, hitems, ?_⟩
      cases hparts : textParts items with
      | none => rfl
      | some parts => exact absurd ⟨_, _, hrole, hcontent, items, hitems, hparts⟩ htext

end

/-! ## Nodes -/

/-- The search for the parent of a node. -/
def parentOf (conversation : Str) (mapping node : List (Str × Json)) : Staged NativeId :=
  nearestMessageParent conversation ((mapping.filter fun e => isMessageNode e.2).map Prod.fst)
    mapping.length mapping (entry node (key "parent"))

section

variable [PythonLibrary] [HistoryLibrary]

/-- A node whose message is refused: the search for its parent meets an invalid identifier or a node
that is none, or a check of the message fails. -/
def Refused (conversation : Str) (mapping : List (Str × Json)) (nodeName : Str)
    (node : List (Str × Json)) : Prop :=
  entry node (key "message") ≠ .null ∧
    ¬ ((parentOf conversation mapping node).isOk = true ∧ MessageOk nodeName (entry node (key "message")))

/-- How a node is mapped. -/
inductive NodeMapped (conversation : Str) (mapping : List (Str × Json)) (index : Nat) (nodeName : Str)
    (node : List (Str × Json)) : Mapped → Prop
  | empty : entry node (key "message") = .null →
      NodeMapped conversation mapping index nodeName node (mapEmptyNode conversation nodeName node)
  | message {parent : NativeId} {m : Mapped} : entry node (key "message") ≠ .null →
      parentOf conversation mapping node = .ok parent →
      mapMessage conversation nodeName index parent (entry node (key "message")) node = .ok m →
      NodeMapped conversation mapping index nodeName node m
  | malformed (reason : String) : Refused conversation mapping nodeName node →
      NodeMapped conversation mapping index nodeName node
        (malformedMessage conversation nodeName reason)

theorem nodeMapped_of_mapNode {conversation : Str} {mapping : List (Str × Json)} {index : Nat}
    {nodeName : Str} {rawNode : Json} {m : Mapped}
    (h : mapNode conversation mapping index nodeName rawNode = .ok m) :
    ∃ node, rawNode = .obj node ∧ NodeMapped conversation mapping index nodeName node m := by
  obtain ⟨node, hnode, h⟩ := bind_eq_ok.1 h
  refine ⟨node, object_eq_ok.1 hnode, ?_⟩
  by_cases hmessage : entry node (key "message") = .null
  · rw [hmessage] at h
    cases pure_eq_ok.1 h
    exact .empty hmessage
  · have hbody : orMalformed conversation nodeName (do
        let parent ← parentOf conversation mapping node
        mapMessage conversation nodeName index parent (entry node (key "message")) node) = .ok m := by
      split at h
      · rename_i heq
        exact absurd heq hmessage
      · exact h
    generalize hx : (do
        let parent ← parentOf conversation mapping node
        mapMessage conversation nodeName index parent (entry node (key "message")) node) = x at hbody
    cases x with
    | ok m' =>
      cases hbody
      obtain ⟨parent, hparent, hx⟩ := bind_eq_ok.1 hx
      exact .message hmessage hparent hx
    | error e =>
      rw [orMalformed] at hbody
      split_ifs at hbody
      cases hbody
      refine .malformed e.message ⟨hmessage, fun ⟨hparent, hok⟩ => ?_⟩
      obtain ⟨parent, hparent⟩ := exists_of_isOk hparent
      obtain ⟨m', hm'⟩ : ∃ m', mapMessage conversation nodeName index parent
          (entry node (key "message")) node = .ok m' := exists_mapMessage_iff.2 hok
      rw [hparent, ok_bind, hm'] at hx
      cases hx

/-- What the nodes of a mapping are mapped to is what each is mapped to. -/
theorem exists_of_mapNodes {conversation : Str} {mapping nodes : List (Str × Json)} {index : Nat}
    {m : Mapped} (h : mapNodes conversation mapping index nodes = .ok m) :
    ∃ ms : List Mapped,
      List.Forall₂ (fun e m => ∃ node index, e.2 = .obj node ∧
        NodeMapped conversation mapping index e.1 node m) nodes ms ∧
      m = (ms.flatMap Prod.fst, (ms.map Prod.snd).foldr ConversationCounts.add .zero) := by
  induction nodes generalizing index m with
  | nil =>
    cases h
    exact ⟨[], .nil, rfl⟩
  | cons e nodes ih =>
    obtain ⟨⟨objects, counts⟩, hfirst, h⟩ := bind_eq_ok.1 h
    obtain ⟨⟨others, more⟩, hrest, h⟩ := bind_eq_ok.1 h
    obtain ⟨ms, hms, hm⟩ := ih hrest
    obtain ⟨node, hnode, hmapped⟩ := nodeMapped_of_mapNode hfirst
    cases hm
    cases pure_eq_ok.1 h
    exact ⟨(objects, counts) :: ms, .cons ⟨node, index, hnode, hmapped⟩ hms, rfl⟩

end

end DollState.History.ChatGPT
