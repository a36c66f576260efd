import ClusterLifecycle.Proofs.Encoding.Base64
import ClusterLifecycle.Proofs.Encoding.Gzip
import ClusterLifecycle.Proofs.Json.Reading
import ClusterLifecycle.Proofs.Parts
import ClusterLifecycle.Proofs.Utf8
import ClusterLifecycle.Release.Record

/-!
# How releases are stored

The record of a release is an object of JSON with the name of the release, its namespace, its status
and its manifest, among other things. It is stored as base64 of its text, or of a compressed member
whose contents are its text. No text of an object begins like a member, so which of the two it is
can be told from the first bytes.

Main statement: `storage_read_back` says that a stored release is read back, whatever else its
record holds and however it is written, and that a failure names the release that was asked for.
-/

namespace ClusterLifecycle.Release

/-! ## Records -/

/-- How far the stored form of a release may go. -/
structure Limits where
  /-- The limits of a member. -/
  member : Gzip.Limits
  /-- Whether an entry of the record may have the name; one without a value is no text. -/
  allowsName : Option String → Prop

/-- The limits of the formats. -/
def format : Limits := ⟨Gzip.format, fun _ => True⟩

/-- The limits of the reader. -/
def reader : Limits := ⟨Gzip.reader, (·.isSome)⟩

/-- The entries of an object that have texts as names. -/
def entriesOf (members : List (Option String × JsonSource)) : List (String × JsonSource) :=
  members.filterMap fun member => member.1.map (·, member.2)

/-- The object has the entries, none of the known names twice, and others as far as allowed. -/
structure IsObject (limits : Limits) (known : List String) (tree : JsonSource)
    (entries : List (String × JsonSource)) : Prop where
  members : ∃ members, tree = .obj members ∧ entriesOf members = entries ∧
    ∀ member ∈ members, limits.allowsName member.1
  once : ((entries.filter (known.contains ·.1)).map (·.1)).Nodup

/-- The tree is a text. -/
def IsText (tree : JsonSource) (text : String) : Prop :=
  tree = .str (some text)

/-- The tree is the part of a record that holds the status. -/
def IsInfo (limits : Limits) (tree : JsonSource) (status : String) : Prop :=
  ∃ entries, IsObject limits ["status"] tree entries ∧ States entries "status" IsText "" status

/-- The tree is the record of the release. What it leaves out, other than the name, is empty. -/
def IsRecord (limits : Limits) (tree : JsonSource) (r : Release) : Prop :=
  ∃ entries, IsObject limits ["name", "namespace", "info", "manifest"] tree entries ∧
    (∃ name, ("name", name) ∈ entries ∧ IsText name r.name) ∧
    States entries "namespace" IsText "" r.space ∧
    States entries "info" (IsInfo limits) "" r.status ∧
    States entries "manifest" IsText "" r.manifest

/-- The payload stores the release. -/
inductive Stores (limits : Limits) (r : Release) : List UInt8 → Prop where
  | plain {text : String} {tree : JsonSource} (htext : tree.WritesItem text.toList)
      (hrecord : IsRecord limits tree r) : Stores limits r (Base64.encode (Text.Utf8.encode text))
  | compressed {text : String} {tree : JsonSource} {member : List UInt8}
      (htext : tree.WritesItem text.toList) (hrecord : IsRecord limits tree r)
      (hmember : Gzip.Member limits.member member (Text.Utf8.encode text)) :
      Stores limits r (Base64.encode member)

/-! ## Parts of records -/

/-- The nodes of entries. -/
def nodes (depth : Nat) (entries : List (String × JsonSource)) : List (String × JsonNode) :=
  entries.map fun entry => (entry.1, ⟨entry.2, depth⟩)

theorem mapM_members {members : List (Option String × JsonSource)}
    (h : ∀ member ∈ members, member.1.isSome = true) (depth : Nat) :
    (members.mapM fun member => member.1.map fun name => (name, (⟨member.2, depth⟩ : JsonNode))) =
      some (nodes depth (entriesOf members)) := by
  induction members with
  | nil => rfl
  | cons member members ih =>
      obtain ⟨name, tree⟩ := member
      obtain ⟨hname, hmembers⟩ := List.forall_mem_cons.1 h
      obtain ⟨name, rfl⟩ := Option.isSome_iff_exists.1 hname
      rw [List.mapM_cons, ih hmembers]
      rfl

section

variable {known : List String} {tree : JsonSource} {entries : List (String × JsonSource)}
  {depth : Nat}

theorem parts_of_isObject (h : IsObject reader known tree entries) :
    Document.Parts.of? known (⟨tree, depth + 1⟩ : JsonNode) =
      some ⟨(nodes depth entries).filter (known.contains ·.1), true⟩ := by
  obtain ⟨members, rfl, rfl, hnames⟩ := h.members
  have hentries : Document.entries? (⟨.obj members, depth + 1⟩ : JsonNode) =
      some (nodes depth (entriesOf members)) := mapM_members hnames depth
  refine (Document.Parts.of?_eq_some_iff hentries).2 ⟨?_, rfl⟩
  have honce := h.once
  rw [nodes, List.filter_map, List.map_map]
  exact honce

theorem IsObject.nodup (h : IsObject reader known tree entries) :
    (((nodes depth entries).filter (known.contains ·.1)).map (·.1)).Nodup := by
  rw [nodes, List.filter_map, List.map_map]
  exact h.once

/-- What is stated under a known name is what its part is read as. -/
theorem withDefault_of_states {α : Type} {name : String} {reads : JsonSource → α → Prop}
    {read : JsonNode → Option α} {default value : α} (h : IsObject reader known tree entries)
    (hname : name ∈ known)
    (hreads : ∀ tree value, reads tree value → read ⟨tree, depth⟩ = some value)
    (hstates : States entries name reads default value) :
    Document.Parts.withDefault ⟨(nodes depth entries).filter (known.contains ·.1), true⟩ name
      default read = some value := by
  refine (Document.Parts.withDefault_eq_some_iff h.nodup).2 ?_
  rcases hstates with ⟨tree, hmem, hread⟩ | ⟨habsent, hdefault⟩
  · refine .inl ⟨⟨tree, depth⟩, List.mem_filter.2 ⟨?_, by simpa using hname⟩, ?_⟩
    · exact List.mem_map.2 ⟨_, hmem, rfl⟩
    · exact hreads tree value hread
  · refine .inr ⟨fun node hnode => ?_, hdefault⟩
    obtain ⟨entry, hentry, heq⟩ := List.mem_map.1 (List.mem_filter.1 hnode).1
    obtain ⟨rfl, -⟩ := Prod.mk.inj heq
    exact habsent entry.2 hentry

/-- A part that must be present is read like one with a default. -/
theorem required_of_mem {α : Type} {name : String} {part : JsonSource}
    {read : JsonNode → Option α} {value : α} (h : IsObject reader known tree entries)
    (hname : name ∈ known) (hmem : (name, part) ∈ entries)
    (hread : read ⟨part, depth⟩ = some value) :
    Document.Parts.required ⟨(nodes depth entries).filter (known.contains ·.1), true⟩ name read =
      some value := by
  have hpart : (name, (⟨part, depth⟩ : JsonNode)) ∈
      (nodes depth entries).filter (known.contains ·.1) :=
    List.mem_filter.2 ⟨List.mem_map.2 ⟨_, hmem, rfl⟩, by simpa using hname⟩
  rw [Document.Parts.required, Document.Parts.find?, (Table.get?_eq_some_iff h.nodup).2 hpart,
    Option.bind_some, hread]

end

theorem text?_of_isText {tree : JsonSource} {text : String} (h : IsText tree text) (depth : Nat) :
    Document.text? (⟨tree, depth⟩ : JsonNode) = some text := by
  rw [IsText] at h
  subst h
  rfl

theorem decodeInfo?_of_isInfo {tree : JsonSource} {status : String} (h : IsInfo reader tree status)
    (depth : Nat) : decodeInfo? (⟨tree, depth + 1⟩ : JsonNode) = some status := by
  obtain ⟨entries, hobject, hstatus⟩ := h
  rw [decodeInfo?, parts_of_isObject hobject]
  exact withDefault_of_states hobject (.head _) (fun _ _ ht => text?_of_isText ht depth) hstatus

theorem decode?_of_isRecord {tree : JsonSource} {r : Release} (h : IsRecord reader tree r)
    (depth : Nat) : decode? (⟨tree, depth + 2⟩ : JsonNode) = some r := by
  obtain ⟨entries, hobject, ⟨name, hmem, hname⟩, hspace, hstatus, hmanifest⟩ := h
  have htext : ∀ tree text, IsText tree text →
      Document.text? (⟨tree, depth + 1⟩ : JsonNode) = some text :=
    fun tree text ht => text?_of_isText ht (depth + 1)
  have hname' := required_of_mem hobject (.head _) hmem (htext name _ hname)
  have hspace' := withDefault_of_states hobject (by decide) htext hspace
  have hstatus' := withDefault_of_states hobject (by decide)
    (fun tree status ht => decodeInfo?_of_isInfo ht depth) hstatus
  have hmanifest' := withDefault_of_states hobject (by decide) htext hmanifest
  rw [decode?, parts_of_isObject hobject]
  simp only [Option.bind_eq_bind, Option.bind_some, hname', hspace', hstatus', hmanifest',
    Option.pure_def]

/-! ## Texts of records -/

theorem ofJsonBytes?_encode {text : String} {tree : JsonSource} {r : Release}
    (htext : tree.WritesItem text.toList) (hrecord : IsRecord reader tree r) :
    ofJsonBytes? (Text.Utf8.encode text) = some r := by
  rw [ofJsonBytes?, Text.Utf8.decode_encode, JsonNode.read?,
    JsonSource.read?_of_writesItem htext]
  exact decode?_of_isRecord hrecord 125

/-- The text of an object begins with a blank or with its opening brace. -/
theorem head_of_writesItem {cs : List Char} {members : List (Option String × JsonSource)}
    (h : JsonSource.WritesItem cs (.obj members)) :
    ∃ c rest, cs = c :: rest ∧ c ∈ ['\x7b', ' ', '\n', '\t', '\r'] := by
  obtain ⟨hbefore, hobject, -⟩ := h
  rename_i before object after
  cases before with
  | nil => cases hobject with
    | emptyObj | obj => exact ⟨_, _, rfl, .head _⟩
  | cons c before => exact ⟨c, _, rfl, .tail _ (hbefore c (.head _))⟩

/-- No text of a record begins like a member. -/
theorem isMember_encode {limits : Limits} {text : String} {tree : JsonSource} {r : Release}
    (htext : tree.WritesItem text.toList) (hrecord : IsRecord limits tree r) :
    Gzip.isMember (Text.Utf8.encode text) = false := by
  obtain ⟨_, hobject, -⟩ := hrecord
  obtain ⟨members, rfl, -⟩ := hobject.members
  obtain ⟨c, rest, hcs, hc⟩ := head_of_writesItem htext
  -- each of these characters is a single byte, and none of them is the first byte of a member
  have hall : ∀ c ∈ ['\x7b', ' ', '\n', '\t', '\r'],
      ∀ bytes, Gzip.isMember (String.utf8EncodeChar c ++ bytes) = false := by
    simp only [List.forall_mem_cons, List.not_mem_nil, false_implies, implies_true, and_true]
    exact ⟨fun _ => rfl, fun _ => rfl, fun _ => rfl, fun _ => rfl, fun _ => rfl⟩
  rw [Text.Utf8.encode_eq_flatMap, hcs, List.flatMap_cons]
  exact hall c hc _

theorem isMember_of_member {limits : Gzip.Limits} {bytes contents : List UInt8}
    (h : Gzip.Member limits bytes contents) : Gzip.isMember bytes = true := by
  obtain ⟨head, stream, -, -, rfl⟩ := h
  simp [Gzip.isMember, Gzip.magic, Gzip.Head.bytes]

/-! ## Payloads -/

theorem ofPayload_of_stores {r : Release} {payload : List UInt8} (h : Stores reader r payload)
    (release : String) : ofPayload release payload = .ok r := by
  cases h with
  | plain htext hrecord =>
      simp only [ofPayload, Base64.decode_encode, isMember_encode htext hrecord,
        ofJsonBytes?_encode htext hrecord, Bool.false_eq_true, if_false]
  | compressed htext hrecord hmember =>
      simp only [ofPayload, Base64.decode_encode, isMember_of_member hmember,
        Gzip.decode?_of_member hmember, ofJsonBytes?_encode htext hrecord, if_true]

/-- A stored release is read back. Where a payload cannot be read, the failure names the release
that was asked for. -/
theorem storage_read_back (release : String) :
    (∀ r payload, Stores reader r payload → ofPayload release payload = .ok r) ∧
      ∀ payload f, ofPayload release payload = .error f →
        ∃ message, f = .releaseStorage release message :=
  ⟨fun _ _ h => ofPayload_of_stores h release, fun _ _ h => exists_of_ofPayload_eq_error h⟩

namespace Sample

/-- A release without a namespace and a manifest. -/
def demo : Release := ⟨"demo", "", "deployed", ""⟩

/-- Its record, with an entry that is of no interest. -/
def record : String :=
  "\x7b\"name\": \"demo\", \"info\": \x7b\"status\": \"deployed\"\x7d, \"chart\": null\x7d"

/-- The record as a tree. -/
def tree : JsonSource :=
  .obj [(some "name", .str (some "demo")),
    (some "info", .obj [(some "status", .str (some "deployed"))]), (some "chart", .null)]

theorem isBlank_nil : JsonSource.IsBlank [] := by
  simp [JsonSource.IsBlank]

theorem isBlank_space : JsonSource.IsBlank [' '] := by
  simp [JsonSource.IsBlank]

theorem writesMember_plain {name : String} {before between cs : List Char} {v : JsonSource}
    (hname : name.toList.all JsonSource.isPlain = true)
    (hbefore : JsonSource.IsBlank before) (hbetween : JsonSource.IsBlank between)
    (h : v.Writes cs) :
    JsonSource.WritesMember
      (before ++ ('"' :: (name.toList ++ ['"']) ++ ([] ++ ':' :: (between ++ (cs ++ [])))))
      (some name, v) :=
  .named hbefore (JsonSource.spells_plain hname) rfl isBlank_nil
    (.spaced hbetween h isBlank_nil)

theorem writes_record : tree.WritesItem record.toList := by
  have hdemo := @JsonSource.writes_plain "demo" (by decide)
  have hdeployed := @JsonSource.writes_plain "deployed" (by decide)
  have hname := @writesMember_plain "name" _ _ _ _ (by decide) isBlank_nil isBlank_space hdemo
  have hstatus := @writesMember_plain "status" _ _ _ _ (by decide) isBlank_nil isBlank_space
    hdeployed
  have hinfo := @writesMember_plain "info" _ _ _ _ (by decide) isBlank_space isBlank_space
    (.obj (.last hstatus))
  have hchart := @writesMember_plain "chart" _ _ _ _ (by decide) isBlank_space isBlank_space .null
  exact .spaced isBlank_nil (.obj (.cons hname (.cons hinfo (.last hchart)))) isBlank_nil

theorem isInfo_tree :
    IsInfo reader (.obj [(some "status", .str (some "deployed"))]) "deployed" := by
  refine ⟨_, ⟨⟨_, rfl, rfl, ?_⟩, ?_⟩, .inl ⟨_, .head _, rfl⟩⟩
  · simp [reader]
  · decide

theorem isRecord_tree : IsRecord reader tree demo := by
  refine ⟨_, ⟨⟨_, rfl, rfl, ?_⟩, ?_⟩, ⟨_, .head _, rfl⟩, .inr ⟨?_, rfl⟩,
    .inl ⟨_, .tail _ (.head _), isInfo_tree⟩, .inr ⟨?_, rfl⟩⟩
  · simp [reader]
  · decide
  · simp [entriesOf]
  · simp [entriesOf]

theorem stores_record : Stores reader demo (Base64.encode (Text.Utf8.encode record)) :=
  .plain writes_record isRecord_tree

theorem stores_compressed :
    Stores reader demo (Base64.encode (Gzip.store (Text.Utf8.encode record))) :=
  .compressed writes_record isRecord_tree (Gzip.member_store _ _)

/-- The record is read, compressed or not, and bytes that are no base64 are not. -/
theorem storage_of_demo :
    ofPayload "demo" (Base64.encode (Text.Utf8.encode record)) = .ok demo ∧
      ofPayload "demo" (Base64.encode (Gzip.store (Text.Utf8.encode record))) = .ok demo ∧
      ∃ f message, ofPayload "demo" [0] = .error f ∧ f = .releaseStorage "demo" message := by
  have hfault : ofPayload "demo" [0] = .error (.releaseStorage "demo"
      "invalid base64 release data: Invalid symbol 0, offset 0.") := by
    decide +kernel
  obtain ⟨message, hmessage⟩ := (storage_read_back "demo").2 [0] _ hfault
  exact ⟨(storage_read_back "demo").1 _ _ stores_record,
    (storage_read_back "demo").1 _ _ stores_compressed, _, message, hfault, hmessage⟩

/-! ### Beyond the limits -/

theorem isObject_format {limits : Limits} {known : List String} {tree : JsonSource}
    {entries : List (String × JsonSource)} (h : IsObject limits known tree entries) :
    IsObject format known tree entries := by
  obtain ⟨members, htree, hentries, -⟩ := h.members
  exact ⟨⟨members, htree, hentries, fun _ _ => trivial⟩, h.once⟩

/-- A record within any limits is one of the format. -/
theorem isRecord_format {limits : Limits} {tree : JsonSource} {r : Release}
    (h : IsRecord limits tree r) : IsRecord format tree r := by
  obtain ⟨entries, hobject, hname, hspace, hstatus, hmanifest⟩ := h
  refine ⟨entries, isObject_format hobject, hname, hspace, ?_, hmanifest⟩
  rcases hstatus with ⟨info, hmem, within, hinfo, hstates⟩ | habsent
  · exact .inl ⟨info, hmem, within, isObject_format hinfo, hstates⟩
  · exact .inr habsent

/-- What is stored as a member of the format is not read back if the member is refused. -/
theorem ofPayload_of_refused {text : String} {tree : JsonSource} {r : Release}
    {member : List UInt8} (htext : tree.WritesItem text.toList) (hrecord : IsRecord format tree r)
    (h : Gzip.Member Gzip.format member (Text.Utf8.encode text) ∧ Gzip.decode? member = none)
    (release : String) :
    Stores format r (Base64.encode member) ∧
      ofPayload release (Base64.encode member) ≠ .ok r := by
  refine ⟨.compressed htext hrecord h.1, ?_⟩
  simp [ofPayload, Base64.decode_encode, isMember_of_member h.1, h.2]

/-- A release of which nothing is known but its name. -/
def named : Release := ⟨"demo", "", "", ""⟩

/-- Its record, with an entry whose name is half of a pair of UTF-16 units. -/
def halfNamed : String :=
  "\x7b\"name\":\"demo\",\"\\ud800\":0\x7d"

/-- The record as a tree. -/
def halfNamedTree : JsonSource :=
  .obj [(some "name", .str (some "demo")), (none, .num ⟨false, [0], none, none⟩)]

theorem writes_halfNamed : halfNamedTree.WritesItem halfNamed.toList := by
  have hdemo := @JsonSource.writes_plain "demo" (by decide)
  have hname := @writesMember_plain "name" _ _ _ _ (by decide) isBlank_nil isBlank_nil hdemo
  have hspells : JsonSource.Spells ['\\', 'u', 'd', '8', '0', '0'] [0xD800] :=
    @JsonSource.Spells.unit 'd' '8' '0' '0' 13 8 0 0 [] [] ⟨by decide, .inl rfl⟩
      ⟨by decide, .inl rfl⟩ ⟨by decide, .inl rfl⟩ ⟨by decide, .inl rfl⟩ .nil
  have hnone : JsonSource.Denotes [0xD800] none := fun cs =>
    JsonSource.ne_of_isHigh ⟨by decide, by decide⟩ (by simp)
  have hzero : JsonSource.Writes ['0'] (.num ⟨false, [0], none, none⟩) :=
    .num (.unsigned ⟨by decide, by decide⟩ (fun _ => rfl) .absent .absent)
  have hhalf := JsonSource.WritesMember.named isBlank_nil hspells hnone isBlank_nil
    (.spaced isBlank_nil hzero isBlank_nil)
  exact .spaced isBlank_nil (.obj (.cons hname (.last hhalf))) isBlank_nil

theorem isRecord_halfNamedTree : IsRecord format halfNamedTree named := by
  refine ⟨_, ⟨⟨_, rfl, rfl, fun _ _ => trivial⟩, ?_⟩, ⟨_, .head _, rfl⟩, .inr ⟨?_, rfl⟩,
    .inr ⟨?_, rfl⟩, .inr ⟨?_, rfl⟩⟩
  · decide
  all_goals simp [entriesOf]

theorem ofPayload_halfNamed :
    Stores format named (Base64.encode (Text.Utf8.encode halfNamed)) ∧
      ofPayload "demo" (Base64.encode (Text.Utf8.encode halfNamed)) ≠ .ok named := by
  refine ⟨.plain writes_halfNamed isRecord_halfNamedTree, ?_⟩
  have hread : ofJsonBytes? (Text.Utf8.encode halfNamed) = none := by
    rw [ofJsonBytes?, Text.Utf8.decode_encode, JsonNode.read?,
      JsonSource.read?_of_writesItem writes_halfNamed]
    rfl
  simp [ofPayload, Base64.decode_encode, isMember_encode writes_halfNamed isRecord_halfNamedTree,
    hread]

/-- What the formats allow beyond the limits is not read: a block that gives lengths for 31 distance
words, a name of more than 65535 bytes in the header, and a name of an entry that is no text. -/
theorem beyond_the_limits :
    (Stores format demo (Base64.encode (Gzip.distant (Text.Utf8.encode record))) ∧
        ofPayload "demo" (Base64.encode (Gzip.distant (Text.Utf8.encode record))) ≠ .ok demo) ∧
      (Stores format demo (Base64.encode (Gzip.titled 65536 (Text.Utf8.encode record))) ∧
        ofPayload "demo" (Base64.encode (Gzip.titled 65536 (Text.Utf8.encode record))) ≠
          .ok demo) ∧
      Stores format named (Base64.encode (Text.Utf8.encode halfNamed)) ∧
        ofPayload "demo" (Base64.encode (Text.Utf8.encode halfNamed)) ≠ .ok named := by
  have hshort : (Text.Utf8.encode record).length < 65536 := by decide +kernel
  have hrecord := isRecord_format isRecord_tree
  exact ⟨ofPayload_of_refused writes_record hrecord (Gzip.distant_is_refused hshort) "demo",
    ofPayload_of_refused writes_record hrecord
      (Gzip.titled_is_refused (Nat.lt_succ_self 65535) _) "demo",
    ofPayload_halfNamed⟩

end Sample

end ClusterLifecycle.Release
