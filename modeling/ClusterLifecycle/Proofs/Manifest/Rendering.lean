import ClusterLifecycle.Manifest
import Mathlib.Data.List.Basic

/-!
# Manifests that are rendered from documents

A manifest is rendered by a separator in front of the text of every document. It is cut at every
place where the characters of a separator stand, also inside a document whose lines end in dashes,
and a fragment that looks blank is passed over although a carriage return may end its comment.

Main statement: `read_rendering` says that a manifest is read back as the documents of which it was
rendered if none of them holds a separator and none of those that look blank has contents.
-/

namespace ClusterLifecycle.Manifest

/-! ## Cutting -/

/-- Texts as they are cut: a text is empty, begins with a separator, or has a first character that
begins none. -/
@[elab_as_elim]
theorem cut_induction {motive : List Char → Prop} (nil : motive [])
    (separator : ∀ rest, motive rest → motive (separator ++ rest))
    (cons : ∀ c rest, ¬ Manifest.separator <+: c :: rest → motive rest → motive (c :: rest))
    (text : List Char) : motive text := by
  have noPrefix {c : Char} {rest : List Char}
      (h : ∀ more, c = '-' → rest = '-' :: '-' :: '\n' :: more → False) :
      ¬ Manifest.separator <+: c :: rest := by
    rintro ⟨more, hmore⟩
    injection hmore with hc hrest
    exact h more hc.symm hrest.symm
  induction text using cut.induct with
  | case1 rest ih => exact separator rest ih
  | case2 c rest h _ ih => exact cons c rest (noPrefix h) ih
  | case3 c rest h _ _ _ ih => exact cons c rest (noPrefix h) ih
  | case4 => exact nil

theorem cut_ne_nil (text : List Char) : cut text ≠ [] := by
  fun_cases cut text <;> simp

theorem cut_separator (rest : List Char) : cut (separator ++ rest) = [] :: cut rest := rfl

/-- A character that begins no separator belongs to the first piece. -/
theorem cut_cons {c : Char} {rest : List Char} (h : ¬ separator <+: c :: rest) :
    cut (c :: rest) = (cut rest).modifyHead (c :: ·) := by
  rw [cut]
  · cases hrest : cut rest with
    | nil => exact absurd hrest (cut_ne_nil rest)
    | cons piece pieces => rfl
  · rintro more rfl rfl
    exact h (List.prefix_append separator more)

/-- No text that is not empty ends in the beginning of a separator that the one behind it ends. -/
theorem eq_nil_or_begins {text rest : List Char}
    (h : separator <+: text ++ (separator ++ rest)) : text = [] ∨ separator <+: text := by
  match text with
  | [] => exact .inl rfl
  | [a] => simp [separator] at h
  | [a, b] => simp [separator] at h
  | [a, b, c] => simp [separator] at h
  | a :: b :: c :: d :: more => exact .inr (by simpa [separator] using h)

/-- The pieces of a text are those in front of a separator and those behind it. -/
theorem cut_append_separator (text rest : List Char) :
    cut (text ++ (separator ++ rest)) = cut text ++ cut rest := by
  induction text using cut_induction with
  | nil => rfl
  | separator more ih => rw [List.append_assoc, cut_separator, ih, cut_separator]; rfl
  | cons c more h ih =>
      have h' : ¬ separator <+: c :: (more ++ (separator ++ rest)) := by
        intro hbegins
        exact (eq_nil_or_begins hbegins).elim (List.cons_ne_nil c more) h
      rw [List.cons_append, cut_cons h', ih, cut_cons h]
      cases hmore : cut more with
      | nil => exact absurd hmore (cut_ne_nil more)
      | cons piece pieces => rfl

/-- A text without separators is a single piece. -/
theorem cut_of_no_separator {text : List Char} (h : ¬ separator <:+: text) : cut text = [text] := by
  induction text using cut_induction with
  | nil => rfl
  | separator rest _ => exact absurd (List.infix_append [] separator rest) h
  | cons c rest hc ih =>
      have hrest : ¬ separator <:+: rest := by
        intro hinside
        exact h (hinside.trans (List.suffix_cons c rest).isInfix)
      rw [cut_cons hc, ih hrest]
      rfl

/-! ## Renderings -/

/-- A text that is read as one document; null if it holds none. -/
structure Source where
  text : List Char
  value : Yaml.Value
  reads : Yaml.Value.read? (String.ofList text) = some value

/-- The manifest of documents: a separator in front of each of them. -/
def rendering (sources : List Source) : List Char :=
  sources.flatMap (separator ++ ·.text)

/-- The rendering is cut between the documents, and wherever a document is. -/
theorem cut_append_rendering (text : List Char) (sources : List Source) :
    cut (text ++ rendering sources) = cut text ++ sources.flatMap (cut ·.text) := by
  induction sources generalizing text with
  | nil => simp [rendering]
  | cons s rest ih =>
      have hrendering : rendering (s :: rest) = separator ++ (s.text ++ rendering rest) := by
        simp [rendering]
      rw [hrendering, cut_append_separator, ih, List.flatMap_cons]

/-- Nothing in a document makes a fragment of it that is cut or passed over. -/
structure Source.IsPlain (s : Source) : Prop where
  /-- It holds no separator, also not behind other characters of a line. -/
  noSeparator : ¬ separator <:+: s.text
  /-- It looks blank only if it has no contents. -/
  noContents : isBlank s.text = true → s.value.isNull = true

/-- The documents that a list of sources asks for. -/
def documents (sources : List Source) : Except Failure (List Document) :=
  (sources.filter (!·.value.isNull)).mapM (decodeDocument ·.value)

theorem cut_rendering {sources : List Source} (h : ∀ s ∈ sources, s.IsPlain) :
    cut (rendering sources) = [] :: sources.map (·.text) := by
  have hpieces : sources.flatMap (cut ·.text) = sources.map (·.text) := by
    rw [List.map_eq_flatMap]
    exact List.flatMap_congr fun s hs => cut_of_no_separator (h s hs).noSeparator
  have hcut := cut_append_rendering [] sources
  rw [hpieces] at hcut
  exact hcut

theorem readFragment_of_isPlain {s : Source} (h : s.IsPlain) (release : String) (index : Nat) :
    readFragment release index s.text =
      if s.value.isNull then .ok none else (decodeDocument s.value).map some := by
  rw [readFragment]
  split
  next hblank => rw [if_pos (h.noContents hblank)]
  next => rw [readDocument, s.reads]

theorem documents_cons (s : Source) (rest : List Source) :
    documents (s :: rest) =
      if s.value.isNull then documents rest
      else do
        let document ← decodeDocument s.value
        let others ← documents rest
        return document :: others := by
  cases hnull : s.value.isNull with
  | true => simp [documents, hnull]
  | false => simp [documents, hnull, List.mapM_cons]

theorem readFragments_of_isPlain {sources : List Source} (h : ∀ s ∈ sources, s.IsPlain)
    (release : String) (index : Nat) :
    readFragments (readFragment release) index (sources.map (·.text)) = documents sources := by
  induction sources generalizing index with
  | nil => rfl
  | cons s rest ih =>
      have hrest := ih (fun t ht => h t (List.mem_cons_of_mem s ht)) (index + 1)
      rw [List.map_cons, readFragments, readFragment_of_isPlain (h s List.mem_cons_self), hrest,
        documents_cons]
      cases hnull : s.value.isNull with
      | true => cases documents rest <;> rfl
      | false => cases decodeDocument s.value <;> rfl

/-- A manifest is read back as the documents of which it was rendered, and fails exactly when one of
them asks for a hosted cluster that it does not describe. -/
theorem read_rendering (release : String) (sources : List Source)
    (h : ∀ s ∈ sources, s.IsPlain) :
    read release (String.ofList (rendering sources)) = documents sources := by
  rw [read, String.toList_ofList, cut_rendering h, readFragments,
    readFragments_of_isPlain h release 1]
  -- in front of the first separator there is nothing
  cases documents sources <;> rfl

namespace Sample

/-- A text that is read as a document. -/
def source (text : String) (h : (Yaml.Value.read? text).isSome = true) : Source where
  text := text.toList
  value := (Yaml.Value.read? text).get h
  reads := by rw [String.ofList_toList, Option.some_get]

/-- A chart's template, a comment, and a template again. -/
def chart : List Source :=
  [source "# Source: demo/secret.yaml\nkind: Secret\n" (by decide +kernel),
    source "# Source: demo/notes.yaml\n" (by decide +kernel),
    source "kind: Job\nscript: |\n  echo --- begin ---.\n" (by decide +kernel)]

theorem chart_is_read_back :
    (∀ s ∈ chart, s.IsPlain) ∧
      read "demo" (String.ofList (rendering chart)) = documents chart ∧
      documents chart = .ok [.other (some "Secret"), .other (some "Job")] := by
  have hplain : ∀ s ∈ chart, s.IsPlain := by
    intro s hs
    exact ⟨by revert s; decide +kernel, by revert s; decide +kernel⟩
  exact ⟨hplain, read_rendering "demo" chart hplain, by decide +kernel⟩

end Sample

/-- The text has whole lines, and none of them ends or begins a document. -/
structure Source.IsWhole (s : Source) : Prop where
  ended : s.text.getLast? = some '\n'
  noMarker : ∀ line ∈ Text.lines s.text,
    ¬ ['-', '-', '-'] <+: line ∧ ¬ ['.', '.', '.'] <+: line

namespace Sample

/-- A secret with a certificate. -/
def certificate : Source :=
  source "kind: Secret\nca: |\n  -----BEGIN CERTIFICATE-----\n  MIIB\n" (by decide +kernel)

/-- A comment that ends in a carriage return, and contents behind it. -/
def commented : Source :=
  source "# c\rkind: Job\n" (by decide +kernel)

end Sample

/-- Whole lines are not enough: a certificate is cut in two, and what stands behind a comment is
passed over. -/
theorem whole_lines_do_not_suffice :
    (Sample.certificate.IsWhole ∧
      documents [Sample.certificate] = .ok [.other (some "Secret")] ∧
      read "demo" (String.ofList (rendering [Sample.certificate])) =
        .ok [.other (some "Secret"), .other none]) ∧
    (Sample.commented.IsWhole ∧
      documents [Sample.commented] = .ok [.other (some "Job")] ∧
      read "demo" (String.ofList (rendering [Sample.commented])) = .ok []) := by
  refine ⟨⟨⟨?_, ?_⟩, ?_, ?_⟩, ⟨⟨?_, ?_⟩, ?_, ?_⟩⟩
  all_goals decide +kernel

end ClusterLifecycle.Manifest
