import ClusterLifecycle.Manifest
import ClusterLifecycle.Proofs.Texts
import ClusterLifecycle.Proofs.Yaml.Voids

/-!
# Fragments that are passed over

A fragment that looks blank is not read. If all its lines are void in the sense of YAML, it would be
read as null, and passing over it changes nothing. That is so for every text of allowed characters
in which white space is spaces and line ends only.

Where white space or line ends are others, the shortcut and YAML do not agree: see
`blanks_are_not_void`.

Main statement: `read_eq_readThroughout`.
-/

namespace ClusterLifecycle.Manifest

/-! ## Reading every fragment -/

/-- Reads the manifest of a release without passing over anything. -/
def readThroughout (release manifest : String) : Except Failure (List Document) :=
  readFragments (readDocument release) 0 (cut manifest.toList)

/-! ## Blank lines -/

theorem isBlankLine_eq (line : List Char) :
    isBlankLine line = (Text.trimStart line).head?.all (· == '#') := by
  rw [← Text.head?_trimEnd_trimStart, isBlankLine]
  cases Text.trimEnd (Text.trimStart line) <;> simp

/-- What a blank line begins with is blank. -/
theorem isBlankLine_of_prefix {part line : List Char} (h : part <+: line)
    (hline : isBlankLine line = true) : isBlankLine part = true := by
  obtain ⟨rest, rfl⟩ := h
  rw [isBlankLine_eq, Text.trimStart, List.dropWhile_append] at hline
  rw [isBlankLine_eq, Text.trimStart]
  split at hline
  next hpart => simp [List.isEmpty_iff.1 hpart]
  next hpart =>
    rwa [List.head?_append_of_ne_nil _ (mt List.isEmpty_iff.2 hpart)] at hline

/-- The pieces of a blank fragment between its line feeds are blank lines. -/
theorem isBlankLine_dropReturn {fragment piece : List Char} (h : isBlank fragment = true)
    (hpiece : piece ∈ fragment.splitOn '\n') : isBlankLine (Text.dropReturn piece) = true := by
  have hlines : ∀ line ∈ Text.lines fragment, isBlankLine line = true := List.all_eq_true.1 h
  rcases Text.mem_splitOn_of_lines hpiece with rfl | hpiece | hpiece
  · rfl
  · exact isBlankLine_of_prefix (Text.dropReturn_prefix piece) (hlines _ hpiece)
  · exact hlines _ hpiece

/-! ## Plain white space -/

/-- YAML allows all characters of the text, and its only white space is spaces and line ends: line
feeds, with a carriage return in front or without. -/
inductive IsPlain : List Char → Prop where
  | nil : IsPlain []
  | returned {rest : List Char} : IsPlain rest → IsPlain ('\r' :: '\n' :: rest)
  | cons {c : Char} {rest : List Char} : Yaml.isAllowed c = true →
      (Text.isBlank c = true → c = ' ' ∨ c = '\n') → IsPlain rest → IsPlain (c :: rest)

variable {c : Char} {text line : List Char}

/-- White space of other kinds is neither a space nor a line feed. -/
theorem ne_of_plain {d : Char} (h : Text.isBlank c = true → c = ' ' ∨ c = '\n')
    (hblank : Text.isBlank d = true) (hspace : d ≠ ' ') (hfeed : d ≠ '\n') : c ≠ d := by
  rintro rfl
  exact (h hblank).elim hspace hfeed

theorem unifyBreaks_cons (h : Text.isBlank c = true → c = ' ' ∨ c = '\n') (rest : List Char) :
    Yaml.unifyBreaks (c :: rest) = c :: Yaml.unifyBreaks rest := by
  have hreturn : c ≠ '\r' := ne_of_plain h (by decide) (by decide) (by decide)
  have hnext : c ≠ '\u0085' := ne_of_plain h (by decide) (by decide) (by decide)
  rw [Yaml.unifyBreaks]
  · rintro _ rfl
    exact absurd rfl hreturn
  · exact hreturn
  · exact hnext

theorem isBreak_of_plain (h : Text.isBlank c = true → c = ' ' ∨ c = '\n') :
    Yaml.isBreak c = (c == '\n') := by
  have hline : c ≠ '\u2028' := ne_of_plain h (by decide) (by decide) (by decide)
  have hparagraph : c ≠ '\u2029' := ne_of_plain h (by decide) (by decide) (by decide)
  rw [Yaml.isBreak, beq_false_of_ne hline, beq_false_of_ne hparagraph, Bool.or_false, Bool.or_false]

/-- In a plain text all agree on what a line is. -/
theorem IsPlain.lines_eq (h : IsPlain text) :
    Yaml.lines text = (text.splitOn '\n').map Text.dropReturn := by
  unfold Yaml.lines
  induction h with
  | nil => rfl
  | returned _ ih =>
      rw [Yaml.unifyBreaks, List.splitOnP_cons_eq_if_modifyHead, ih]
      simp [List.splitOn_cons_eq_if_modifyHead, Yaml.isBreak, Text.dropReturn]
  | @cons c rest _ hblank _ ih =>
      have hreturn : c ≠ '\r' := ne_of_plain hblank (by decide) (by decide) (by decide)
      obtain ⟨line, lines, hlines⟩ := List.exists_cons_of_ne_nil (List.splitOn_ne_nil '\n' rest)
      rw [unifyBreaks_cons hblank, List.splitOnP_cons_eq_if_modifyHead, isBreak_of_plain hblank, ih,
        List.splitOn_cons_eq_if_modifyHead, hlines]
      cases c == '\n' with
      | true => rfl
      | false => simp [Text.dropReturn_cons hreturn]

theorem IsPlain.blank_of_mem (h : IsPlain text) :
    ∀ c ∈ Yaml.unifyBreaks text, Text.isBlank c = true → c = ' ' ∨ c = '\n' := by
  induction h with
  | nil => simp [Yaml.unifyBreaks]
  | returned _ ih =>
      rw [Yaml.unifyBreaks]
      exact List.forall_mem_cons.2 ⟨fun _ => .inr rfl, ih⟩
  | cons _ hblank _ ih =>
      rw [unifyBreaks_cons hblank]
      exact List.forall_mem_cons.2 ⟨hblank, ih⟩

/-- In a line of a plain text no other white space than spaces is left. -/
theorem IsPlain.eq_space_of_mem (h : IsPlain text) (hline : line ∈ Yaml.lines text) :
    ∀ c ∈ line, Text.isBlank c = true → c = ' ' := by
  intro c hc hblank
  obtain ⟨hmem, hbreak⟩ := Text.of_mem_splitOnP hline c hc
  rcases h.blank_of_mem c hmem hblank with rfl | rfl
  · rfl
  · exact absurd hbreak (by decide)

theorem IsPlain.all_isAllowed (h : IsPlain text) : text.all Yaml.isAllowed = true := by
  induction h with
  | nil => rfl
  | returned _ ih =>
      rw [List.all_cons, List.all_cons, ih]
      rfl
  | cons hallowed _ _ ih => rw [List.all_cons, hallowed, ih, Bool.and_self]

theorem trimStart_eq_dropWhile (h : ∀ c ∈ line, Text.isBlank c = true → c = ' ') :
    Text.trimStart line = line.dropWhile (· == ' ') := by
  unfold Text.trimStart
  induction line with
  | nil => rfl
  | cons c line ih =>
      obtain ⟨hc, hline⟩ := List.forall_mem_cons.1 h
      have hblank : Text.isBlank c = (c == ' ') := by
        rw [Bool.eq_iff_iff, beq_iff_eq]
        refine ⟨hc, ?_⟩
        rintro rfl
        decide
      rw [List.dropWhile_cons, List.dropWhile_cons, hblank, ih hline]

/-- A blank line is void if its white space is spaces. -/
theorem isVoidLine_of_isBlankLine (h : ∀ c ∈ line, Text.isBlank c = true → c = ' ')
    (hline : isBlankLine line = true) : Yaml.isVoidLine line = true := by
  rw [isBlankLine_eq, trimStart_eq_dropWhile h] at hline
  have hmark : Yaml.withoutMark line = line := by
    cases line with
    | nil => rfl
    | cons c line =>
        -- a byte order mark is not blank, and no comment begins with it
        have hc : c ≠ Yaml.byteOrderMark := by
          rintro rfl
          exact absurd hline (by simp [Yaml.byteOrderMark])
        simp [Yaml.withoutMark, hc]
  rwa [Yaml.isVoidLine, Yaml.contents, hmark]

/-- A plain text that looks blank is void. -/
theorem IsPlain.isVoid_of_isBlank (h : IsPlain text) (hblank : isBlank text = true) :
    Yaml.isVoid text = true := by
  rw [Yaml.isVoid, h.all_isAllowed, Bool.true_and, List.all_eq_true]
  intro line hline
  apply isVoidLine_of_isBlankLine (h.eq_space_of_mem hline)
  rw [h.lines_eq] at hline
  obtain ⟨piece, hpiece, rfl⟩ := List.mem_map.1 hline
  exact isBlankLine_dropReturn hblank hpiece

/-! ## The shortcut -/

theorem readFragment_eq_readDocument {fragment : List Char}
    (h : isBlank fragment = true → Yaml.isVoid fragment = true) (release : String) (index : Nat) :
    readFragment release index fragment = readDocument release index fragment := by
  rw [readFragment]
  split
  next hblank =>
      rw [readDocument, Yaml.Value.read?_of_isVoid (h hblank)]
      rfl
  next => rfl

theorem readFragments_congr {one other : Nat → List Char → Except Failure (Option Document)}
    {fragments : List (List Char)} (h : ∀ fragment ∈ fragments, ∀ i, one i fragment =
      other i fragment) (index : Nat) :
    readFragments one index fragments = readFragments other index fragments := by
  induction fragments generalizing index with
  | nil => rfl
  | cons fragment rest ih =>
      obtain ⟨hfragment, hrest⟩ := List.forall_mem_cons.1 h
      rw [readFragments, readFragments, hfragment, ih hrest]

/-- A fragment has no tokens exactly if its lines are void, and then it is read as null. A plain
fragment that looks blank is one of these. Where all fragments that are passed over are, a manifest
is read as if none was passed over: no document is lost, and no failure hidden. -/
theorem read_eq_readThroughout (release manifest : String) :
    (∀ fragment, (Yaml.tokens? fragment = some [] ↔ Yaml.isVoid fragment = true) ∧
      (Yaml.isVoid fragment = true →
        Yaml.Value.read? (String.ofList fragment) = some (.scalar .null)) ∧
      (IsPlain fragment → isBlank fragment = true → Yaml.isVoid fragment = true)) ∧
    ((∀ fragment ∈ cut manifest.toList, isBlank fragment = true → Yaml.isVoid fragment = true) →
      read release manifest = readThroughout release manifest) := by
  constructor
  · intro fragment
    exact ⟨Yaml.tokens?_eq_nil_iff fragment, Yaml.Value.read?_of_isVoid,
      IsPlain.isVoid_of_isBlank⟩
  · intro h
    apply readFragments_congr
    intro fragment hfragment
    exact readFragment_eq_readDocument (h fragment hfragment) release

namespace Sample

/-- An empty fragment, one of comments whose lines end in different ways, and a document. -/
def commentsAndJob : String :=
  "---\n# Source: demo/notes.yaml\r\n\n  # none\n---\nkind: Job\n"

theorem comments_are_passed_over :
    (∀ fragment ∈ cut commentsAndJob.toList,
      isBlank fragment = true → Yaml.isVoid fragment = true) ∧
      read "demo" commentsAndJob = readThroughout "demo" commentsAndJob ∧
      read "demo" commentsAndJob = .ok [.other (some "Job")] := by
  have hvoid : ∀ fragment ∈ cut commentsAndJob.toList,
      isBlank fragment = true → Yaml.isVoid fragment = true := by decide +kernel
  exact ⟨hvoid, (read_eq_readThroughout "demo" commentsAndJob).2 hvoid, by decide +kernel⟩

end Sample

/-- Not everything that looks blank is void: behind a carriage return a comment is over, and white
space of other kinds is contents of a document, or nothing that may be there. -/
theorem blanks_are_not_void :
    (isBlank "# c\rkind: Job\n".toList = true ∧ read "demo" "# c\rkind: Job\n" = .ok [] ∧
      readThroughout "demo" "# c\rkind: Job\n" = .ok [.other (some "Job")]) ∧
    (isBlank "\u00a0\n".toList = true ∧ read "demo" "\u00a0\n" = .ok [] ∧
      readThroughout "demo" "\u00a0\n" = .ok [.other none]) ∧
    (isBlank "\x0b\n".toList = true ∧ read "demo" "\x0b\n" = .ok [] ∧
      readThroughout "demo" "\x0b\n" =
        .error (.manifest "demo" 0 "not a YAML document")) := by
  refine ⟨⟨?_, ?_, ?_⟩, ⟨?_, ?_, ?_⟩, ⟨?_, ?_, ?_⟩⟩
  all_goals decide +kernel

end ClusterLifecycle.Manifest
