import ClusterLifecycle.Proofs.Texts
import ClusterLifecycle.Yaml.Value

/-!
# YAML texts without contents

A text has no tokens exactly if it may be read at all and every one of its lines is void: spaces,
and possibly a comment. What counts as a line end, as a space and as a comment is said by the
notation here, and not by what looks blank elsewhere.

Main statements: `tokens?_eq_nil_iff` says which texts have no tokens, and `read?_of_isVoid` that
they are read as null.
-/

namespace ClusterLifecycle.Yaml

/-! ## Void lines -/

/-- The lines of a text. -/
def lines (text : List Char) : List (List Char) :=
  (unifyBreaks text).splitOnP isBreak

/-- A line without the byte order mark that it may begin with. -/
def withoutMark : List Char → List Char
  | c :: rest => if c == byteOrderMark then rest else c :: rest
  | [] => []

/-- What follows the spaces at the beginning of a line. -/
def contents (line : List Char) : List Char :=
  (withoutMark line).dropWhile (· == ' ')

/-- Whether a line holds nothing but spaces and possibly a comment. -/
def isVoidLine (line : List Char) : Bool :=
  (contents line).head?.all (· == '#')

/-- Whether a text may be read and has void lines only. -/
def isVoid (text : List Char) : Bool :=
  text.all isAllowed && (lines text).all isVoidLine

/-! ## Between tokens -/

theorem exists_line (text : List Char) :
    ∃ line rest, text = line ++ rest ∧ (∀ c ∈ line, isBreak c = false) ∧ endsLine rest = true := by
  induction text with
  | nil => exact ⟨[], [], rfl, by simp, rfl⟩
  | cons c text ih =>
      cases hc : isBreak c with
      | true => exact ⟨[], c :: text, rfl, by simp, hc⟩
      | false =>
          obtain ⟨line, rest, rfl, hline, hrest⟩ := ih
          exact ⟨c :: line, rest, rfl, List.forall_mem_cons.2 ⟨hc, hline⟩, hrest⟩

/-- A line, and the lines behind its break. -/
theorem splitOnP_line {line rest : List Char} (h : ∀ c ∈ line, isBreak c = false)
    (hrest : endsLine rest = true) :
    (line ++ rest).splitOnP isBreak =
      line :: (match rest with
        | [] => []
        | _ :: more => more.splitOnP isBreak) := by
  cases rest with
  | nil => rw [List.append_nil, List.splitOnP_eq_singleton h]
  | cons b more => exact List.splitOnP_append_cons_of_forall_mem h b hrest more

/-- Where a line ends, nothing but a line break stands. -/
theorem dropWhile_of_endsLine {p : Char → Bool} {rest : List Char} (h : endsLine rest = true)
    (hp : ∀ c, isBreak c = true → p c = false) : rest.dropWhile p = rest := by
  cases rest with
  | nil => rfl
  | cons c rest => exact List.dropWhile_cons_of_neg (by simp [hp c h])

theorem contents_subset (line : List Char) : contents line ⊆ line := by
  have hmark : withoutMark line ⊆ line := by
    cases line with
    | nil => exact List.Subset.refl _
    | cons c rest =>
        rw [withoutMark]
        split
        · exact List.subset_cons_self c rest
        · exact List.Subset.refl _
  exact List.Subset.trans (List.dropWhile_suffix _).subset hmark

namespace Reader

theorem rest_skip (p : Char → Bool) (r : Reader) : (r.skip p).rest = r.rest.dropWhile p := by
  show r.rest.drop (r.rest.takeWhile p).length = r.rest.dropWhile p
  generalize r.rest = cs
  induction cs with
  | nil => rfl
  | cons c cs ih => cases hc : p c <;> simp [hc, ih]

/-- What of a line the reader passes over between tokens: a byte order mark, spaces, a comment. -/
def passBlank (r : Reader) : Reader :=
  (r.skipMark.skip (· == ' ')).skipComment

variable {r : Reader} {line rest : List Char}

theorem rest_skipMark (hcolumn : r.column = 0) (hr : r.rest = line ++ rest)
    (hrest : endsLine rest = true) :
    r.skipMark.rest = withoutMark line ++ rest := by
  rw [skipMark, hcolumn, hr]
  cases line with
  | nil =>
      cases rest with
      | nil => exact hr
      | cons b rest =>
          -- a mark is no break, so it does not stand where the line ends
          have hbreak : isBreak b = true := hrest
          have hmark : b ≠ byteOrderMark := Text.ne_of_class hbreak (by decide)
          simp [hmark, hr, withoutMark]
  | cons c line =>
      cases hmark : c == byteOrderMark with
      | true => simp_all [withoutMark, advance]
      | false => simp_all [withoutMark]

theorem rest_skipComment (hr : r.rest = contents line ++ rest)
    (hline : ∀ c ∈ line, isBreak c = false) (hrest : endsLine rest = true) :
    r.skipComment.rest = (if isVoidLine line then [] else contents line) ++ rest := by
  unfold isVoidLine skipComment
  cases hcontents : contents line with
  | nil =>
      rw [hcontents, List.nil_append] at hr
      split
      next more hmore =>
        rw [← hr, hmore] at hrest
        exact absurd (show isBreak '#' = true from hrest) (by decide)
      · simpa using hr
  | cons c more =>
      rw [hcontents, List.cons_append] at hr
      cases hc : c == '#' with
      | true =>
          -- the comment goes on to the end of the line
          have hmore : ∀ d ∈ c :: more, (!isBreak d) = true := by
            intro d hd
            simp [hline d (contents_subset line (hcontents ▸ hd))]
          have hstop : rest.dropWhile (!isBreak ·) = rest :=
            dropWhile_of_endsLine hrest (by simp)
          have hdrop : r.rest.dropWhile (!isBreak ·) = rest := by
            rw [hr, ← List.cons_append, List.dropWhile_append_of_pos hmore, hstop]
          obtain rfl : c = '#' := by simpa using hc
          simp only [hr]
          rw [rest_skip, hdrop]
          simp
      | false =>
          have hne : c ≠ '#' := by simpa using hc
          split
          next hmore =>
            rw [hr] at hmore
            injection hmore with hhash
            exact absurd hhash hne
          · simp [hr, hne]

theorem rest_passBlank (hcolumn : r.column = 0) (hr : r.rest = line ++ rest)
    (hline : ∀ c ∈ line, isBreak c = false) (hrest : endsLine rest = true) :
    r.passBlank.rest = (if isVoidLine line then [] else contents line) ++ rest := by
  have hspaces : (withoutMark line ++ rest).dropWhile (· == ' ') = contents line ++ rest := by
    have hstop : rest.dropWhile (· == ' ') = rest := by
      apply dropWhile_of_endsLine hrest
      intro c hc
      simpa using Text.ne_of_class hc (by decide : isBreak ' ' = false)
    rw [List.dropWhile_append, hstop, contents]
    split
    next hempty => rw [List.isEmpty_iff.1 hempty, List.nil_append]
    · rfl
  apply rest_skipComment _ hline hrest
  rw [rest_skip, rest_skipMark hcolumn hr hrest, hspaces]

end Reader

namespace Scanner

/-- One line of what is skipped between tokens. -/
theorem skipToToken_succ (fuel : Nat) (r : Reader) :
    skipToToken false (fuel + 1) true r =
      match r.passBlank.rest with
      | c :: _ =>
        if isBreak c then skipToToken false fuel true r.passBlank.nextLine else (true, r.passBlank)
      | [] => (true, r.passBlank) := by
  have hspaces : (fun c => c == ' ' || (false || !true) && c == '\t') = (· == ' ') := by
    funext c
    simp
  rw [skipToToken]
  simp only [hspaces]
  rfl

/-- Between tokens void lines are skipped, and nothing else. -/
theorem rest_skipToToken {fuel : Nat} {r : Reader} (hfuel : r.rest.length < fuel)
    (hcolumn : r.column = 0) :
    (skipToToken false fuel true r).2.rest = [] ↔
      (r.rest.splitOnP isBreak).all isVoidLine = true := by
  -- induction on the fuel, which is enough for a line with its break at a time
  induction fuel generalizing r with
  | zero => exact absurd hfuel (Nat.not_lt_zero _)
  | succ fuel ih =>
      obtain ⟨line, rest, hr, hline, hrest⟩ := exists_line r.rest
      have hpass := Reader.rest_passBlank hcolumn hr hline hrest
      rw [skipToToken_succ, hr, splitOnP_line hline hrest, List.all_cons]
      cases hvoid : isVoidLine line with
      | false =>
          -- the line has contents, and there the reader stops
          obtain ⟨c, more, hcontents⟩ : ∃ c more, contents line = c :: more := by
            cases hcontents : contents line with
            | nil => simp [isVoidLine, hcontents] at hvoid
            | cons c more => exact ⟨c, more, rfl⟩
          have hc : isBreak c = false :=
            hline c (contents_subset line (hcontents ▸ List.mem_cons_self))
          have hstop : r.passBlank.rest = c :: (more ++ rest) := by
            rw [hpass, hvoid, hcontents]
            rfl
          simp [hstop, hc]
      | true =>
          rw [hvoid, if_pos rfl, List.nil_append] at hpass
          cases rest with
          | nil => simp [hpass]
          | cons b rest =>
              have hb : isBreak b = true := hrest
              have hnext : r.passBlank.nextLine.rest = rest ∧ r.passBlank.nextLine.column = 0 := by
                simp [Reader.nextLine, hpass, hb]
              have hshorter : r.passBlank.nextLine.rest.length < fuel := by
                rw [hr] at hfuel
                rw [hnext.1]
                simp only [List.length_append, List.length_cons] at hfuel
                omega
              simp only [hpass, hb, if_true, Bool.true_and]
              rw [ih hshorter hnext.2, hnext.1]

/-! ## Tokens -/

/-- Every scanner that may come out has found a token. -/
def Finds (found : Option Scanner) : Prop :=
  ∀ s ∈ found, s.tokens ≠ []

namespace Finds

theorem none : Finds none := by
  simp [Finds]

theorem some {s : Scanner} (h : s.tokens ≠ []) : Finds (some s) := by
  simpa [Finds] using h

theorem bind {α : Type} {found : Option α} {f : α → Option Scanner} (h : ∀ a, Finds (f a)) :
    Finds (found.bind f) := by
  intro s hs
  obtain ⟨a, -, ha⟩ := Option.bind_eq_some_iff.1 hs
  exact h a s ha

theorem map {found : Option Scanner} {f : Scanner → Scanner} (h : ∀ s, (f s).tokens ≠ []) :
    Finds (found.map f) := by
  intro s hs
  obtain ⟨a, -, rfl⟩ := Option.map_eq_some_iff.1 hs
  exact h a

theorem ite {p : Prop} [Decidable p] {a b : Option Scanner} (ha : Finds a) (hb : Finds b) :
    Finds (if p then a else b) := by
  split
  · exact ha
  · exact hb

end Finds

variable {s : Scanner}

theorem tokens_pushMark (s : Scanner) (length : Nat) (t : Token) :
    (s.pushMark length t).tokens ≠ [] :=
  List.cons_ne_nil _ _

theorem finds_marker (t : Token) : Finds (s.marker t) :=
  .map fun s => s.tokens_pushMark 3 t

theorem finds_directive : Finds s.directive :=
  .bind fun _ => .bind fun _ => .some (List.cons_ne_nil _ _)

theorem finds_openFlow (t : Token) : Finds (s.openFlow t) :=
  .map fun s => s.tokens_pushMark 1 t

theorem finds_closeFlow (t : Token) : Finds (s.closeFlow t) := by
  apply Finds.map
  intro s
  -- a collection that was open around this one keeps the tokens
  cases hkeys : s.outerKeys <;> simp [pushMark, push, hkeys]

theorem finds_flowEntry : Finds s.flowEntry :=
  .map fun s => s.tokens_pushMark 1 .flowEntry

theorem finds_blockEntry : Finds s.blockEntry :=
  .ite (.map fun s => s.tokens_pushMark 1 .blockEntry) .none

theorem finds_explicitKey : Finds s.explicitKey :=
  .ite (.map fun s => s.tokens_pushMark 1 .key) .none

theorem finds_mappingValue : Finds s.mappingValue := by
  unfold mappingValue
  split
  · exact .some (tokens_pushMark _ 1 .value)
  · exact .ite (.some (tokens_pushMark _ 1 .value)) .none

theorem finds_reference (t : String → Token) : Finds (s.reference t) :=
  .bind fun _ => .bind fun _ => .some (List.cons_ne_nil _ _)

theorem finds_tag : Finds s.tag :=
  .bind fun _ => .bind fun _ => .some (List.cons_ne_nil _ _)

theorem finds_block (style : Style) : Finds (s.block style) :=
  .bind fun _ => .bind fun _ => .some (List.cons_ne_nil _ _)

theorem finds_quotedScalar (style : Style) : Finds (s.quotedScalar style) :=
  .bind fun _ => .bind fun _ => .some (List.cons_ne_nil _ _)

theorem finds_plainScalar : Finds s.plainScalar :=
  .bind fun _ => .bind fun _ => .some (List.cons_ne_nil _ _)

/-- Whatever token a text begins with, it is found. -/
theorem finds_scanToken (c : Char) (rest : List Char) : Finds (s.scanToken c rest) := by
  unfold scanToken
  -- one step for each test of the scanner, in the order in which it makes them
  refine .ite finds_directive ?_
  refine .ite (finds_marker _) ?_
  refine .ite (finds_marker _) ?_
  refine .ite (finds_openFlow _) ?_
  refine .ite (finds_openFlow _) ?_
  refine .ite (finds_closeFlow _) ?_
  refine .ite (finds_closeFlow _) ?_
  refine .ite finds_flowEntry ?_
  refine .ite finds_blockEntry ?_
  refine .ite finds_explicitKey ?_
  refine .ite finds_mappingValue ?_
  refine .ite (finds_reference _) ?_
  refine .ite (finds_reference _) ?_
  refine .ite finds_tag ?_
  refine .ite (finds_block _) ?_
  refine .ite (finds_block _) ?_
  refine .ite (finds_quotedScalar _) ?_
  refine .ite (finds_quotedScalar _) ?_
  exact .ite finds_plainScalar .none

/-! ## Between tokens none are lost -/

theorem closeBlocksTo_ne_nil {tokens : List Token} (h : tokens ≠ []) (column : Int) (count : Nat)
    (indent : Int) (outer : List Int) :
    (closeBlocksTo column tokens count indent outer).1 ≠ [] := by
  induction outer generalizing tokens count indent with
  | nil => exact h
  | cons next outer ih =>
      rw [closeBlocksTo]
      split
      · exact ih (List.cons_ne_nil _ _) _ _
      · exact h

theorem closeBlocks_ne_nil (h : s.tokens ≠ []) (column : Int) :
    (s.closeBlocks column).tokens ≠ [] := by
  unfold closeBlocks
  split
  · exact h
  · exact closeBlocksTo_ne_nil h column _ _ _

theorem finds_toToken (h : s.tokens ≠ []) : Finds s.toToken := by
  intro s' hs'
  obtain ⟨s₁, h₁, hend⟩ := Option.bind_eq_some_iff.1 hs'
  cases hend
  apply closeBlocks_ne_nil
  obtain ⟨_, -, h₂⟩ := Option.bind_eq_some_iff.1 h₁
  obtain ⟨_, -, h₃⟩ := Option.bind_eq_some_iff.1 h₂
  cases h₃
  exact h

theorem finish_ne_nil (h : s.tokens ≠ []) {ts : List Token} (hts : s.finish = some ts) :
    ts ≠ [] := by
  obtain ⟨s', hs', rfl⟩ := Option.map_eq_some_iff.1 hts
  rw [removeKey] at hs'
  split at hs'
  · exact absurd hs' (by simp)
  · cases hs'
    exact List.reverse_ne_nil_iff.2 (closeBlocks_ne_nil h (-1))

/-- A token that was found is among those of the text. -/
theorem run_ne_nil {fuel : Nat} (h : s.tokens ≠ []) {ts : List Token} (hts : run fuel s = some ts) :
    ts ≠ [] := by
  induction fuel generalizing s with
  | zero => exact absurd hts (by simp [run])
  | succ fuel ih =>
      obtain ⟨s', hs', hrun⟩ := Option.bind_eq_some_iff.1 hts
      have htokens : s'.tokens ≠ [] := finds_toToken h s' hs'
      rw [resume] at hrun
      split at hrun
      · exact finish_ne_nil htokens hrun
      · obtain ⟨s'', hs'', hrun⟩ := Option.bind_eq_some_iff.1 hrun
        exact ih (finds_scanToken _ _ s'' hs'') hrun

end Scanner

/-! ## Texts without tokens -/

/-- At the beginning of a text nothing is open that the first token could close. -/
theorem Scanner.toToken_start (r : Reader) :
    Scanner.toToken { reader := r } =
      some { reader := (Scanner.skipToToken false (r.rest.length + 1) true r).2
             keyAllowed := (Scanner.skipToToken false (r.rest.length + 1) true r).1 } :=
  rfl

theorem Scanner.run_start_eq_nil_iff (fuel : Nat) {r : Reader} (hcolumn : r.column = 0) :
    Scanner.run (fuel + 1) { reader := r } = some [] ↔
      (r.rest.splitOnP isBreak).all isVoidLine = true := by
  rw [← Scanner.rest_skipToToken (Nat.lt_succ_self _) hcolumn, Scanner.run, Scanner.toToken_start]
  simp only [Option.bind_some, Scanner.resume]
  split
  next hrest => simp [hrest, Scanner.finish, Scanner.closeBlocks, Scanner.closeBlocksTo,
      Scanner.removeKey]
  next c rest hrest =>
    -- something is there to be read, and it gives a token
    rw [hrest]
    constructor
    · intro hrun
      obtain ⟨s, hs, hrun⟩ := Option.bind_eq_some_iff.1 hrun
      exact absurd rfl (Scanner.run_ne_nil (Scanner.finds_scanToken c rest s hs) hrun)
    · intro h
      exact absurd h (by simp)

/-- A text has no tokens exactly if it may be read and has void lines only. -/
theorem tokens?_eq_nil_iff (text : List Char) : tokens? text = some [] ↔ isVoid text = true := by
  have hrun := Scanner.run_start_eq_nil_iff text.length (r := { rest := unifyBreaks text }) rfl
  rw [tokens?, isVoid, lines, Bool.and_eq_true, ← hrun]
  cases text.all isAllowed <;> simp

/-- Such a text is read as null. -/
theorem Value.read?_of_isVoid {text : List Char} (h : isVoid text = true) :
    Value.read? (String.ofList text) = some (.scalar .null) := by
  have htokens := (tokens?_eq_nil_iff text).2 h
  have hnodes : Node.ofTokens? [] = some [] := rfl
  simp [Value.read?, Contents.only?, Contents.all?, Node.documents?, htokens, hnodes]

end ClusterLifecycle.Yaml
