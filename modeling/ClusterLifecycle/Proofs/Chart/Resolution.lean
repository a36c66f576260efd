import ClusterLifecycle.Chart.Location
import ClusterLifecycle.Proofs.Url.Reading

/-!
# Where references to charts lead

A reference to a chart leads to the directory of its repository, or as many directories above as it
begins with `..`, in whichever way the URL of the repository is spelled. A chart with a URL of its
own is there.

One host is in the way: the URL of a repository that is nothing but the host `index.yaml` ends like
the URL of an index, and loses its host (`host_is_taken_for_index`).

Main statement: `location_of_repositoryUrl`.
-/

namespace ClusterLifecycle.Chart

open Url (Hostname IsPlain onHost webText)

/-! ## Repositories and references -/

/-- A segment of a path: not empty, and nothing in it has a meaning of its own. -/
structure Segment where
  text : String
  isPlain : IsPlain text
  ne_empty : text ≠ ""

/-- The URL of a path on a host. -/
def address (host : Hostname) (path : List Segment) : String :=
  "https://" ++ host.text ++ "/" ++ "/".intercalate (path.map Segment.text)

/-- How the URL of a repository ends. -/
inductive Spelling where
  /-- With the last segment of its directory. -/
  | bare
  /-- With a slash. -/
  | slashed
  /-- With the name of the index. -/
  | indexed
deriving DecidableEq

/-- What is written behind the directory. -/
def Spelling.ending : Spelling → String
  | bare => ""
  | slashed => "/"
  | indexed => "/" ++ indexFile

/-- A repository in a directory of a host. -/
structure RepositoryUrl where
  host : Hostname
  directory : List Segment
  spelling : Spelling
  /-- A directory that has the name of the index is not written last. -/
  ne_index : spelling = .bare → ∀ last ∈ directory.getLast?, last.text ≠ indexFile

/-- The URL of the repository. -/
def RepositoryUrl.text (r : RepositoryUrl) : String :=
  "https://" ++ r.host.text ++ String.join (r.directory.map ("/" ++ ·.text)) ++ r.spelling.ending

/-- Whether the host looks like the name of an index behind a slash. -/
def RepositoryUrl.isTakenForIndex (r : RepositoryUrl) : Bool :=
  r.spelling == .bare && r.directory.isEmpty && r.host.text == indexFile

/-- A relative reference. -/
structure Reference where
  /-- How many directories it goes up. -/
  up : Nat
  path : List Segment
  path_ne_nil : path ≠ []

/-- The reference as it is written. -/
def Reference.text (reference : Reference) : String :=
  "/".intercalate (List.replicate reference.up ".." ++ reference.path.map Segment.text)

/-! ## The name of the index -/

/-- What stands behind the last slash of a text is determined by it. -/
theorem eq_of_append_slash {p q a b : List Char} (ha : '/' ∉ a) (hb : '/' ∉ b)
    (h : p ++ '/' :: a = q ++ '/' :: b) : a = b := by
  rcases List.append_eq_append_iff.1 h with ⟨more, rfl, hmore⟩ | ⟨more, rfl, hmore⟩
  · cases more with
    | nil => exact (List.cons.inj hmore).2
    | cons c more =>
        obtain ⟨-, rfl⟩ := List.cons.inj hmore
        exact absurd (by simp) ha
  · cases more with
    | nil => exact (List.cons.inj hmore).2.symm
    | cons c more =>
        obtain ⟨-, rfl⟩ := List.cons.inj hmore
        exact absurd (by simp) hb

theorem endsWith_iff {text ending : String} :
    text.endsWith ending = true ↔ ending.toList <:+ text.toList := by
  rw [String.endsWith_eq_endsWith_toSlice, String.Slice.endsWith_string_iff, String.copy_toSlice]

theorem toList_slash (front last : String) :
    (front ++ "/" ++ last).toList = front.toList ++ '/' :: last.toList := by
  rw [String.toList_append, String.toList_append, List.append_assoc]
  rfl

/-- What is left of a text when a suffix of the length of the index's name is dropped. -/
theorem take_of_suffix {text : String} {shorter : List Char}
    (h : shorter ++ indexFile.toList = text.toList) :
    text.toList.take (text.length - indexFile.length) = shorter := by
  have hlength : text.length - indexFile.length = shorter.length := by
    rw [← String.length_toList, ← String.length_toList, ← h, List.length_append,
      Nat.add_sub_cancel]
  rw [hlength, ← h, List.take_left]

/-- The name of the index is dropped where it is all that stands behind the last slash. -/
theorem repositoryBase_slash (front : String) {last : String} (h : '/' ∉ last.toList) :
    repositoryBase (front ++ "/" ++ last) =
      if last = indexFile then front ++ "/" else front ++ "/" ++ last := by
  by_cases hlast : last = indexFile
  · subst hlast
    have hsuffix : (front ++ "/").toList ++ indexFile.toList =
        (front ++ "/" ++ indexFile).toList := (String.toList_append).symm
    have hends : (front ++ "/" ++ indexFile).endsWith indexFile = true :=
      endsWith_iff.2 ⟨_, hsuffix⟩
    have hslash : (front ++ "/").toList.getLast? = some '/' := by simp
    rw [repositoryBase, take_of_suffix hsuffix, hends, hslash, if_pos rfl]
    exact String.ofList_toList
  · rw [if_neg hlast, repositoryBase]
    -- a name that is only the end of the last segment has no slash in front
    apply if_neg
    rw [Bool.and_eq_true, beq_iff_eq]
    rintro ⟨hends, hslash⟩
    obtain ⟨shorter, hshorter⟩ := endsWith_iff.1 hends
    rw [take_of_suffix hshorter] at hslash
    obtain ⟨start, rfl⟩ := List.getLast?_eq_some_iff.1 hslash
    -- both end with what stands behind the last slash
    rw [toList_slash, List.append_assoc] at hshorter
    have hindex := eq_of_append_slash (by decide) h hshorter
    exact hlast (String.toList_inj.1 hindex.symm)

/-! ## The directory of a repository -/

/-- The path of the URL of the repository. -/
def RepositoryUrl.path (r : RepositoryUrl) : List String :=
  r.directory.map Segment.text ++ match r.spelling with
    | .bare => []
    | .slashed => [""]
    | .indexed => [indexFile]

theorem RepositoryUrl.text_eq (r : RepositoryUrl) : r.text = webText r.host r.path := by
  rw [text, webText, path, List.map_append, String.join_append, List.map_map, ← String.append_assoc]
  cases r.spelling <;> rfl

/-- The pieces of a path behind a host, where at least one slash stands. -/
def pieces (path : List Segment) : List String :=
  if path = [] then [""] else path.map Segment.text

theorem pieces_ne_nil (path : List Segment) : pieces path ≠ [] := by
  rw [pieces]
  split <;> simp_all

theorem address_eq (host : Hostname) (path : List Segment) :
    address host path = webText host (pieces path) := by
  rw [address, webText, Url.join_slash (pieces_ne_nil path), ← String.append_assoc, pieces]
  split
  next hnil =>
    subst hnil
    rfl
  · rfl

theorem webText_concat (host : Hostname) (path : List String) (last : String) :
    webText host (path ++ [last]) = webText host path ++ "/" ++ last := by
  rw [webText, webText, List.map_append, String.join_append, List.map_singleton, String.join_cons,
    String.join_nil, String.append_empty, ← String.append_assoc, ← String.append_assoc]

theorem repositoryBase_webText (host : Hostname) (path : List String) {last : String}
    (h : '/' ∉ last.toList) :
    repositoryBase (webText host (path ++ [last])) =
      webText host (path ++ [if last = indexFile then "" else last]) := by
  rw [webText_concat, repositoryBase_slash _ h, webText_concat]
  split
  · exact String.append_empty.symm
  · rfl

/-- A host alone stands behind the second slash of the scheme. -/
theorem repositoryBase_host (host : Hostname) :
    repositoryBase (webText host []) =
      if host.text = indexFile then "https://" else webText host [] := by
  have hslash : '/' ∉ host.text.toList :=
    fun hmem => Text.ne_of_class (host.isNameChar_of_mem '/' hmem) (by decide) rfl
  have htext : webText host [] = "https:/" ++ "/" ++ host.text := String.append_empty
  rw [htext, repositoryBase_slash _ hslash]
  rfl

theorem asDirectory_onHost (host : Hostname) (path : List String) (last : String) :
    (onHost host (path ++ [last])).asDirectory =
      if last = "" then onHost host (path ++ [last]) else onHost host (path ++ [last] ++ [""]) := by
  simp only [Url.asDirectory, onHost, List.getLast?_concat]
  by_cases hlast : last = ""
  · subst hlast
    rfl
  · rw [if_neg hlast, if_neg (mt String.isEmpty_iff.1 hlast)]

theorem isPlain_of_mem (segments : List Segment) : ∀ piece ∈ segments.map Segment.text,
    IsPlain piece := by
  intro piece hpiece
  obtain ⟨segment, -, rfl⟩ := List.mem_map.1 hpiece
  exact segment.isPlain

theorem isPlain_of_mem_slashed (segments : List Segment) :
    ∀ piece ∈ segments.map Segment.text ++ [""], IsPlain piece := by
  intro piece hpiece
  rcases List.mem_append.1 hpiece with hpiece | hpiece
  · exact isPlain_of_mem segments piece hpiece
  · rw [List.mem_singleton.1 hpiece]
    exact Url.isPlain_empty

/-- With a slash at the end the directory is read as it is. -/
theorem read_slashed (host : Hostname) (directory : List Segment) :
    Url.read none (webText host (directory.map Segment.text ++ [""])) =
      .ok (onHost host (directory.map Segment.text ++ [""])) := by
  rw [Url.read_webText host none (isPlain_of_mem_slashed directory), if_neg (by simp)]

/-- However the URL of a repository is spelled, references begin at its directory. -/
theorem read_repositoryBase (r : RepositoryUrl) (hr : r.isTakenForIndex = false) :
    ∃ base, Url.read none (repositoryBase r.text) = .ok base ∧
      base.asDirectory = onHost r.host (r.directory.map Segment.text ++ [""]) := by
  rw [r.text_eq, RepositoryUrl.path]
  cases hspelling : r.spelling with
  | slashed =>
      refine ⟨_, ?_, (asDirectory_onHost _ _ _).trans (if_pos rfl)⟩
      simp only [repositoryBase_webText _ _ (Url.isPlain_empty.not_mem (by decide))]
      exact read_slashed r.host r.directory
  | indexed =>
      refine ⟨_, ?_, (asDirectory_onHost _ _ _).trans (if_pos rfl)⟩
      simp only [repositoryBase_webText _ _ (by decide : '/' ∉ indexFile.toList)]
      exact read_slashed r.host r.directory
  | bare =>
      -- what stands behind the last slash is the last segment, or the host if there is none
      rcases List.eq_nil_or_concat r.directory with hdirectory | ⟨front, last, hdirectory⟩
      · have hhost : r.host.text ≠ indexFile := by
          intro hhost
          simp [RepositoryUrl.isTakenForIndex, hspelling, hdirectory, hhost] at hr
        rw [hdirectory]
        refine ⟨_, ?_, (asDirectory_onHost r.host [] "").trans (if_pos rfl)⟩
        simp only [List.map_nil, List.append_nil, repositoryBase_host, if_neg hhost]
        exact Url.read_webText r.host none (by simp)
      · have hlast : last.text ≠ indexFile := r.ne_index hspelling last (by simp [hdirectory])
        have hpath : r.directory.map Segment.text = front.map Segment.text ++ [last.text] := by
          rw [hdirectory, List.concat_eq_append, List.map_append, List.map_singleton]
        have hread := Url.read_webText r.host none (isPlain_of_mem r.directory)
        rw [hpath, if_neg (by simp)] at hread
        rw [hpath]
        refine ⟨_, ?_, (asDirectory_onHost r.host _ last.text).trans (if_neg last.ne_empty)⟩
        simp only [List.append_nil, if_neg hlast,
          repositoryBase_webText _ _ (last.isPlain.not_mem (by decide))]
        exact hread

/-! ## Locations -/

/-- What is left of the URL of the host alone is no URL. -/
theorem location_of_isTakenForIndex {r : RepositoryUrl} (hr : r.isTakenForIndex = true)
    (chart : String) :
    location r.text chart = .error (.chartUrl r.text chart "empty host") := by
  simp only [RepositoryUrl.isTakenForIndex, Bool.and_eq_true, beq_iff_eq, List.isEmpty_iff] at hr
  obtain ⟨⟨hspelling, hdirectory⟩, hhost⟩ := hr
  have hread : Url.read none (repositoryBase r.text) = .error .emptyHost := by
    simp only [r.text_eq, RepositoryUrl.path, hspelling, hdirectory, List.map_nil, List.append_nil,
      repositoryBase_host, if_pos hhost]
    rfl
  rw [location, hread]
  rfl

theorem location_of_read {r : RepositoryUrl} (hr : r.isTakenForIndex = false) {chart : String}
    {u : Url}
    (hu : Url.read (some (onHost r.host (r.directory.map Segment.text ++ [""]))) chart = .ok u) :
    location r.text chart = .ok u.text := by
  obtain ⟨base, hread, hbase⟩ := read_repositoryBase r hr
  rw [← hbase] at hu
  have hfound : (do
      let base ← Url.read none (repositoryBase r.text)
      Url.read (some base.asDirectory) chart : Except Url.Fault Url) = .ok u := by
    rw [hread]
    exact hu
  rw [location, hfound]

/-- Every `..` in front of a reference is one directory less, as long as there is one. -/
theorem location_reference {r : RepositoryUrl} (hr : r.isTakenForIndex = false)
    (reference : Reference) :
    location r.text reference.text = .ok (address r.host
      (r.directory.take (r.directory.length - min reference.up r.directory.length) ++
        reference.path)) := by
  have hup : r.directory.length - min reference.up r.directory.length =
      r.directory.length - reference.up := by omega
  have hempty : ∀ piece ∈ reference.path.map Segment.text, piece ≠ "" := by
    intro piece hpiece
    obtain ⟨segment, -, rfl⟩ := List.mem_map.1 hpiece
    exact segment.ne_empty
  have hread := Url.read_upward r.host (isPlain_of_mem_slashed r.directory)
    (isPlain_of_mem reference.path) hempty
    (mt List.map_eq_nil_iff.1 reference.path_ne_nil) reference.up
  -- what is left of the directories and the path of the reference are pieces in a row
  have hpath : pieces (r.directory.take (r.directory.length - reference.up) ++ reference.path) =
      (r.directory.map Segment.text).rdrop reference.up ++ reference.path.map Segment.text := by
    rw [pieces, if_neg (List.append_ne_nil_of_right_ne_nil _ reference.path_ne_nil),
      List.map_append, List.map_take, List.rdrop, List.length_map]
  -- a directory ends with an empty piece, and that is the one that a reference replaces
  rw [List.dropLast_concat] at hread
  rw [Reference.text, location_of_read hr hread, Url.text_onHost, hup, address_eq, hpath]

/-- Nothing of the repository counts for a chart with a URL of its own. -/
theorem location_address {r : RepositoryUrl} (hr : r.isTakenForIndex = false) (host : Hostname)
    (path : List Segment) : location r.text (address host path) = .ok (address host path) := by
  have hplain : ∀ piece ∈ pieces path, IsPlain piece := by
    rw [pieces]
    split
    · simpa using Url.isPlain_empty
    · exact isPlain_of_mem path
  have hread := Url.read_webText host
    (some (onHost r.host (r.directory.map Segment.text ++ [""]))) hplain
  rw [← address_eq, if_neg (pieces_ne_nil path)] at hread
  rw [location_of_read hr hread, Url.text_onHost, address_eq]

/-- A reference leads to the directory of the repository, and for every `..` in front one directory
up as long as there is one. A chart with a URL of its own is there, whatever the repository. Both
hold for all repositories whose host is not taken for the name of an index. -/
theorem location_of_repositoryUrl (r : RepositoryUrl) :
    (∀ reference : Reference, location r.text reference.text =
      if r.isTakenForIndex then .error (.chartUrl r.text reference.text "empty host")
      else .ok (address r.host
        (r.directory.take (r.directory.length - min reference.up r.directory.length) ++
          reference.path))) ∧
    ∀ (host : Hostname) (path : List Segment), location r.text (address host path) =
      if r.isTakenForIndex then .error (.chartUrl r.text (address host path) "empty host")
      else .ok (address host path) := by
  cases hr : r.isTakenForIndex with
  | true =>
      exact ⟨fun reference => location_of_isTakenForIndex hr reference.text,
        fun host path => location_of_isTakenForIndex hr (address host path)⟩
  | false =>
      exact ⟨location_reference hr, location_address hr⟩

namespace Sample

/-- The host of two labels that looks like the name of an index. -/
def host : Hostname where
  labels := ["index", "yaml"]
  labels_ne_nil := by decide
  label_ne_empty := by decide
  isLower := by
    have hlower : ["index", "yaml"].all (·.toList.all Char.isLower) = true := by decide
    exact fun label hlabel => List.all_eq_true.1 (List.all_eq_true.1 hlower label hlabel)

/-- A repository that is nothing but that host. -/
def repository : RepositoryUrl where
  host := host
  directory := []
  spelling := .bare
  ne_index := by simp

/-- A chart in the directory of its repository. -/
def chart : Segment where
  text := "c.tgz"
  isPlain := ⟨List.all_eq_true.1 (by decide), by decide, by decide⟩
  ne_empty := by decide

end Sample

/-- The host is not the name of an index, and yet it is dropped as if it was. -/
theorem host_is_taken_for_index :
    Sample.repository.text = "https://index.yaml" ∧
      location Sample.repository.text Sample.chart.text =
        .error (.chartUrl "https://index.yaml" "c.tgz" "empty host") ∧
      location "https://index.yaml/" Sample.chart.text = .ok "https://index.yaml/c.tgz" ∧
      address Sample.host [Sample.chart] = "https://index.yaml/c.tgz" := by
  refine ⟨?_, ?_, ?_, ?_⟩
  all_goals decide +kernel

end ClusterLifecycle.Chart
