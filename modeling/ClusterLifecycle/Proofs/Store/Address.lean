import ClusterLifecycle.ApiServer.Collection
import ClusterLifecycle.World.State

/-!
# Where resources are read and written

The names of resources are not escaped in the target of a request, so not every name can stand in
one. The server admits only names that can: small letters, digits, hyphens and dots, and not too
many of them.

Main statements: `getRequest_ok`, `createRequest_ok`, `replaceRequest_ok` and
`patchStatusRequest_ok`. The requests that read and write a resource can be built whenever the
server can have stored it.
-/

namespace ClusterLifecycle.Store

open ApiServer

/-! ## Names -/

/-- Whether a character may stand in the name of a resource. -/
def isNameChar (c : Char) : Bool :=
  c.isLower || c.isDigit || c == '-' || c == '.'

/-- Whether the server admits a name. -/
structure AdmitsName (name : String) : Prop where
  nonempty : name ≠ ""
  short : name.utf8ByteSize ≤ 253
  plain : name.toList.all isNameChar = true

/-- Whether the server admits the names of a key. -/
structure Admits (key : Key) : Prop where
  space : AdmitsName key.space
  name : AdmitsName key.name

/-! ## Paths -/

/-- Whether a character stands for itself in a path. -/
def isPlain (c : Char) : Bool :=
  c != '#' && c != '?' && Target.isPathChar c

theorem isPlain_of_isNameChar {c : Char} (h : isNameChar c = true) : isPlain c = true := by
  -- no character of a name is one of those that a path cannot hold
  have hne : ∀ d : Char, isNameChar d = false → c ≠ d := by
    rintro d hd rfl
    rw [h] at hd
    exact absurd hd (by simp)
  have hlarge : 0x20 < c.toNat := by
    simp only [isNameChar, Bool.or_eq_true, beq_iff_eq] at h
    rcases h with ((h | h) | rfl) | rfl
    · have hlower : 'a'.val ≤ c.val := of_decide_eq_true (Bool.and_eq_true_iff.1 h).1
      calc 0x20 < 'a'.toNat := by decide
        _ ≤ c.toNat := UInt32.le_iff_toNat_le.1 hlower
    · calc 0x20 < '0'.toNat := by decide
        _ ≤ c.toNat := (Char.isDigit_iff_toNat.1 h).1
    · decide
    · decide
  simp [isPlain, Target.isPathChar, hlarge, hne '#' (by decide), hne '?' (by decide),
    hne '<' (by decide), hne '>' (by decide), hne '\u0060' (by decide)]

/-- A path of characters that stand for themselves is the path of a target. -/
theorem ofText?_of_plain {path : String} (hsize : path.utf8ByteSize < Target.maxSize)
    (hplain : path.toList.all isPlain = true) :
    Target.ofText? (path ++ "?" ++ "") = some ⟨path, Url.Form.decodePairs ""⟩ := by
  have hchars : ∀ c ∈ path.toList, c ≠ '#' ∧ c ≠ '?' ∧ Target.isPathChar c = true := by
    intro c hc
    have hc' : isPlain c = true := List.all_eq_true.1 hplain c hc
    simpa [isPlain, and_assoc] using hc'
  -- the path ends at the question mark, and the query behind it is empty
  have hwhole : (path ++ "?" ++ "").toList.takeWhile (· != '#') = path.toList ++ ['?'] := by
    have htext : (path ++ "?" ++ "").toList = path.toList ++ ['?'] := by simp
    rw [htext, List.takeWhile_append_of_pos fun c hc => by simpa using (hchars c hc).1]
    rfl
  have hpath : (path.toList ++ ['?']).takeWhile (· != '?') = path.toList := by
    rw [List.takeWhile_append_of_pos fun c hc => by simpa using (hchars c hc).2.1]
    exact List.append_nil _
  have hrest : (path.toList ++ ['?']).dropWhile (· != '?') = ['?'] := by
    rw [List.dropWhile_append_of_pos fun c hc => by simpa using (hchars c hc).2.1]
    rfl
  have hbytes : (path ++ "?" ++ "").utf8ByteSize ≤ Target.maxSize := by
    have hmark : "?".utf8ByteSize = 1 := rfl
    simp only [String.utf8ByteSize_append, String.append_empty, hmark]
    omega
  simp only [Target.ofText?, hwhole, hpath, hrest]
  rw [if_pos]
  · rw [String.ofList_toList]
    rfl
  · refine ⟨hbytes, ?_, by decide⟩
    exact List.all_eq_true.2 fun c hc => (hchars c hc).2.2

/-! ## Requests -/

theorem request_of_plain {path : String} (method : Method) (content : Option Content)
    (hsize : path.utf8ByteSize < Target.maxSize) (hplain : path.toList.all isPlain = true) :
    ∃ r, Collection.request method path "" content = .ok r ∧ r.target.path = path := by
  refine ⟨{ method, target := ⟨path, Url.Form.decodePairs ""⟩, content }, ?_, rfl⟩
  rw [Collection.request, ofText?_of_plain hsize hplain]

variable {key : Key} {c : Collection} {space : String}

theorem AdmitsName.all_isPlain {name : String} (h : AdmitsName name) :
    name.toList.all isPlain = true :=
  List.all_eq_true.2 fun c hc => isPlain_of_isNameChar (List.all_eq_true.1 h.plain c hc)

/-- The parts of paths that a collection has of its own are short, and stand for themselves. -/
structure Regular (c : Collection) : Prop where
  root_short : (c.root ++ c.groupVersion ++ "/").utf8ByteSize < 100
  root_plain : (c.root ++ c.groupVersion ++ "/").toList.all isPlain = true
  plural_short : c.plural.utf8ByteSize < 100
  plural_plain : c.plural.toList.all isPlain = true

theorem regular_instances : Regular Collection.instances :=
  ⟨by decide, by decide, by decide, by decide⟩

theorem path_short (hc : Regular c) (h : AdmitsName space) :
    (c.path (some space)).utf8ByteSize < 1000 := by
  have hspace : space.utf8ByteSize ≤ 253 := h.short
  have hroot : (c.root ++ c.groupVersion ++ "/").utf8ByteSize < 100 := hc.root_short
  have hplural : c.plural.utf8ByteSize < 100 := hc.plural_short
  have hspaces : "namespaces/".utf8ByteSize < 100 := by decide
  have hslash : "/".utf8ByteSize < 100 := by decide
  simp only [Collection.path, String.utf8ByteSize_append] at hroot ⊢
  omega

theorem path_plain (hc : Regular c) (h : AdmitsName space) :
    (c.path (some space)).toList.all isPlain = true := by
  have hroot : (c.root ++ c.groupVersion ++ "/").toList.all isPlain = true := hc.root_plain
  have hspaces : "namespaces/".toList.all isPlain = true := by decide
  have hslash : "/".toList.all isPlain = true := by decide
  simp only [Collection.path, String.toList_append, List.all_append, Bool.and_eq_true] at hroot ⊢
  exact ⟨⟨hroot, ⟨hspaces, h.all_isPlain⟩, hslash⟩, hc.plural_plain⟩

/-- The path of a member. -/
def pathOf (c : Collection) (key : Key) : String :=
  c.path (some key.space) ++ "/" ++ key.name

theorem memberPath_eq (h : Admits key) :
    c.memberPath (some key.space) key.name = .ok (pathOf c key) := by
  have hname : key.name.isEmpty = false := by
    simpa [String.isEmpty_iff] using h.name.nonempty
  rw [Collection.memberPath, hname]
  rfl

theorem pathOf_short (hc : Regular c) (h : Admits key) : (pathOf c key).utf8ByteSize < 2000 := by
  have hpath : (c.path (some key.space)).utf8ByteSize < 1000 := path_short hc h.space
  have hname : key.name.utf8ByteSize ≤ 253 := h.name.short
  have hslash : "/".utf8ByteSize < 100 := by decide
  simp only [pathOf, String.utf8ByteSize_append]
  omega

theorem pathOf_plain (hc : Regular c) (h : Admits key) :
    (pathOf c key).toList.all isPlain = true := by
  have hslash : "/".toList.all isPlain = true := by decide
  simp only [pathOf, String.toList_append, List.all_append, Bool.and_eq_true]
  exact ⟨⟨path_plain hc h.space, hslash⟩, h.name.all_isPlain⟩

theorem getRequest_ok (hc : Regular c) (h : Admits key) :
    ∃ r, c.getRequest (some key.space) key.name = .ok r ∧ r.target.path = pathOf c key := by
  have hsize : (pathOf c key).utf8ByteSize < Target.maxSize :=
    Nat.lt_trans (pathOf_short hc h) (by decide)
  obtain ⟨r, hr, hpath⟩ := request_of_plain .get none hsize (pathOf_plain hc h)
  refine ⟨r, ?_, hpath⟩
  rw [Collection.getRequest, memberPath_eq h]
  exact (pure_bind (m := Except ApiFault) _ _).trans hr

/-- Names that the server admits are told apart by the requests that look them up. -/
theorem eq_of_getRequest {name name' : String} {r : Request} (hc : Regular c)
    (h : Admits ⟨space, name⟩) (h' : Admits ⟨space, name'⟩)
    (hr : c.getRequest (some space) name = .ok r) (hr' : c.getRequest (some space) name' = .ok r) :
    name = name' := by
  obtain ⟨q, hq, hpath⟩ := getRequest_ok hc h
  obtain ⟨q', hq', hpath'⟩ := getRequest_ok hc h'
  cases hq.symm.trans hr
  cases hq'.symm.trans hr'
  have hsame : pathOf c ⟨space, name⟩ = pathOf c ⟨space, name'⟩ := hpath.symm.trans hpath'
  exact (String.append_right_inj _).1 hsame

theorem createRequest_ok (hc : Regular c) (h : AdmitsName space) (resource : Json) :
    ∃ r, c.createRequest (some space) resource = .ok r := by
  obtain ⟨r, hr, -⟩ := request_of_plain .post (some (.resource resource))
    (Nat.lt_trans (path_short hc h) (by decide)) (path_plain hc h)
  exact ⟨r, hr⟩

/-! ### Instances -/

theorem replaceRequest_ok (h : Admits key) (resource : Json) :
    ∃ r, Collection.instances.replaceRequest (some key.space) key.name resource = .ok r := by
  obtain ⟨r, hr, -⟩ := request_of_plain .put (some (.resource resource))
    (Nat.lt_trans (pathOf_short regular_instances h) (by decide)) (pathOf_plain regular_instances h)
  refine ⟨r, ?_⟩
  rw [Collection.replaceRequest, memberPath_eq h]
  exact (pure_bind (m := Except ApiFault) _ _).trans hr

theorem patchStatusRequest_ok (h : Admits key) (parts : Json) :
    ∃ r, Collection.instances.patchStatusRequest (some key.space) key.name parts = .ok r := by
  have hsize : (pathOf Collection.instances key ++ "/status").utf8ByteSize < Target.maxSize := by
    have hshort : (pathOf Collection.instances key).utf8ByteSize < 2000 :=
      pathOf_short regular_instances h
    have hstatus : "/status".utf8ByteSize = 7 := by decide
    rw [String.utf8ByteSize_append, Target.maxSize]
    omega
  have hplain : (pathOf Collection.instances key ++ "/status").toList.all isPlain = true := by
    rw [String.toList_append, List.all_append, pathOf_plain regular_instances h]
    decide
  obtain ⟨r, hr, -⟩ := request_of_plain .patch (some (.mergePatch parts)) hsize hplain
  refine ⟨r, ?_⟩
  rw [Collection.patchStatusRequest, memberPath_eq h]
  exact (pure_bind (m := Except ApiFault) _ _).trans hr

end ClusterLifecycle.Store
