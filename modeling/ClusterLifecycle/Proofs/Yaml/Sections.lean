import ClusterLifecycle.Proofs.Yaml.BlockScalars
import ClusterLifecycle.Proofs.Yaml.Printable
import ClusterLifecycle.Yaml.Tree

/-!
# Settings that are written and read

Texts and numbers in nested mappings are written line by line, each mapping two columns behind the
one around it. Reading the lines gives the tree with the same keys and values, every text in the
style that it was written in.

Main statement: `only?_render`.
-/

namespace ClusterLifecycle.Yaml

open Printer (blanks entryLines)

/-! ## What is read -/

/-- How a text is written. -/
def styleOf (s : String) : Style :=
  match Printer.formOf false s with
  | .plain => .plain
  | .single => .singleQuoted
  | .double => .doubleQuoted
  | .literal => .literal

namespace Outline

mutual

/-- The tokens of an outline below a key. -/
def tokens : Outline → List Token
  | .null => [.scalar .plain "null"]
  | .bool b => [.scalar .plain (if b then "true" else "false")]
  | .nat n => [.scalar .plain (Decimal.text n)]
  | .text s => [.scalar (styleOf s) s]
  | .list [] => [.flowSequenceStart, .flowSequenceEnd]
  | .list items => itemTokens items
  | .mapping [] => [.flowMappingStart, .flowMappingEnd]
  | .mapping entries => .blockMappingStart :: (entryTokens entries ++ [.blockEnd])

/-- The tokens of items. -/
def itemTokens : List Outline → List Token
  | [] => []
  | item :: rest => .blockEntry :: (tokens item ++ itemTokens rest)

/-- The tokens of entries. -/
def entryTokens : List (String × Outline) → List Token
  | [] => []
  | (key, value) :: rest =>
    .key :: .scalar .plain key :: .value :: (tokens value ++ entryTokens rest)

end

mutual

/-- The tree of an outline. -/
def tree : Outline → Tree
  | .null => .scalar none .plain "null"
  | .bool b => .scalar none .plain (if b then "true" else "false")
  | .nat n => .scalar none .plain (Decimal.text n)
  | .text s => .scalar none (styleOf s) s
  | .list items => .sequence none (itemTrees items)
  | .mapping entries => .mapping none (entryTrees entries)

/-- The trees of items. -/
def itemTrees : List Outline → List Tree
  | [] => []
  | item :: rest => tree item :: itemTrees rest

/-- The trees of entries. -/
def entryTrees : List (String × Outline) → List (Tree × Tree)
  | [] => []
  | (key, value) :: rest => (.scalar none .plain key, tree value) :: entryTrees rest

end

/-- Texts and numbers in mappings, of which none is empty. -/
inductive IsSettings : Outline → Prop where
  | nat (n : Nat) : IsSettings (.nat n)
  | text (s : String) : IsSettings (.text s)
  | mapping {entries : List (String × Outline)} (ne_nil : entries ≠ [])
      (keys : ∀ e ∈ entries, IsName e.1) (values : ∀ e ∈ entries, IsSettings e.2) :
      IsSettings (.mapping entries)

theorem tokens_mapping {entries : List (String × Outline)} (hne : entries ≠ []) :
    (Outline.mapping entries).tokens =
      .blockMappingStart :: (entryTokens entries ++ [.blockEnd]) := by
  obtain ⟨e, es, rfl⟩ := List.exists_cons_of_ne_nil hne
  rw [tokens]
  simp

/-- What stands behind a key and its colon. -/
def behindKey (column : Nat) (value : Outline) : List Char :=
  Printer.behindKey column value fun place => Printer.lines place value

theorem entryLines_cons (column : Nat) {key : String} (hkey : IsName key) (value : Outline)
    (rest : List (String × Outline)) :
    entryLines column ((key, value) :: rest) =
      key.toList ++ ':' :: (behindKey column value ++
        ((if rest.isEmpty then [] else blanks column) ++ entryLines column rest)) := by
  have htext : Printer.keyText key = key.toList ++ [':'] := by
    simp only [Printer.keyText, hkey.plain]
  rw [entryLines, htext]
  simp [behindKey]

/-- The value behind a key of a mapping at some column is read with its line ends, up to what
follows it. -/
def IsScanned (value : Outline) : Prop :=
  ∀ {ts : List Token} {outer : List Int} {column k n : Nat} {rest : List Char} {r : Reader},
    r.At k (behindKey column value ++ (blanks n ++ rest)) → Begins rest → n ≤ column → column < k →
    ∃ u r', ((⟨ts, column, outer⟩ : Nest).scanner r false).toToken = some u ∧
      u.reader.rest.length ≤ (behindKey column value ++ (blanks n ++ rest)).length ∧
      r'.At n rest ∧ u.Leads
        (((⟨value.tokens.reverse ++ ts, column, outer⟩ : Nest).close n).scanner r' true)

end Outline

/-! ## Scalars -/

theorem Begins.of_head {c : Char} {rest : List Char} (hc : Printer.isPrintable c = true)
    (hspace : c ≠ ' ') (hbreak : Printer.isBreak c = false) (hhash : c ≠ '#') :
    Begins (c :: rest) := by
  intro d hd
  obtain rfl : c = d := by simpa using hd
  have hmark : c ≠ byteOrderMark := by
    rintro rfl
    exact absurd hc (by decide)
  refine ⟨?_, (isBreak_of_isPrintable hc).symm.trans hbreak, hhash, hmark⟩
  simp [isSpacing, hspace, ne_tab_of_isPrintable hc]

/-- A text that was written begins with a token. -/
theorem begins_textLines (margin : Nat) (s : String) (rest : List Char) :
    Begins (Printer.textLines margin s ++ rest) := by
  unfold Printer.textLines
  dsimp only
  -- a plain text begins with its own first character, the other forms with a mark
  split
  next hform =>
    obtain ⟨hwords, hlead⟩ := IsWords.of_plain hform rest
    obtain ⟨-, -, -, hbreaks, hescapes⟩ := formOf_plain hform
    obtain ⟨hprintable, -⟩ := of_needsEscapes hescapes
    obtain ⟨c, cs, hcs⟩ := List.exists_cons_of_ne_nil hwords.ne_nil
    rw [hcs, List.cons_append, List.cons_append]
    have hmem : c ∈ s.toList := by simp [hcs]
    refine .of_head (hprintable c hmem) ?_ (hbreaks c hmem) ?_
    · simpa [hcs] using hwords.head
    · simpa [hcs] using hwords.notComment
  next =>
    rw [Printer.singleQuoted, List.cons_append, moveIn_of_not_isBreak (by decide)]
    exact .of_head (by decide) (by decide) (by decide) (by decide)
  next => exact .of_head (by decide) (by decide) (by decide) (by decide)
  next =>
    unfold Printer.literalHeader
    exact .of_head (by decide) (by decide) (by decide) (by decide)

namespace Nest

variable {b : Nest} {r : Reader} {column n margin : Nat} {s : String} {rest : List Char}

/-- A text that was written, and the lines it takes. -/
theorem leads_text (h : r.At column (Printer.textLines margin s ++ (blanks n ++ rest)))
    (hrest : Begins rest) (hmargin : (margin : Int) = b.indent + 2) (hn : (n : Int) ≤ b.indent)
    (hcolumn : b.indent < column) :
    ∃ r', r'.At n rest ∧ (b.scanner r false).Leads
      (((b.push (.scalar (styleOf s) s)).close n).scanner r' true) := by
  have hpos : 0 < column := by omega
  have hpos' : 0 < margin := by omega
  unfold styleOf
  cases hform : Printer.formOf false s with
  | plain =>
      obtain ⟨hwords, hlead⟩ := IsWords.of_plain hform (blanks n ++ rest)
      simp only [Printer.textLines, hform, List.append_assoc] at h
      exact leads_plain hwords hlead h hrest hn hcolumn
  | single =>
      simp only [Printer.textLines, hform, List.append_assoc] at h
      exact leads_single hform h hrest hpos' hpos
  | double =>
      simp only [Printer.textLines, hform, List.append_assoc] at h
      exact leads_double h hrest hpos
  | literal => exact leads_literal hform h hrest hmargin hn hpos

end Nest

namespace Outline

/-- What is on the line of its key is read behind a blank. -/
theorem isScanned_of_line {value : Outline}
    (hline : ∀ column, behindKey column value = ' ' :: Printer.lines (column + 2) value)
    (hbegins : ∀ column rest, Begins (Printer.lines (column + 2) value ++ rest))
    (hleads : ∀ {b : Nest} {r : Reader} {column k n : Nat} {rest : List Char},
      r.At k (Printer.lines (column + 2) value ++ (blanks n ++ rest)) → Begins rest →
      b.indent = column → n ≤ column → column < k → ∃ r', r'.At n rest ∧
        (b.scanner r false).Leads
          (((⟨value.tokens.reverse ++ b.tokens, b.indent, b.outer⟩ : Nest).close n).scanner
            r' true)) :
    value.IsScanned := by
  intro ts outer column k n rest r h hrest hn hk
  have hat : r.At k (blanks 1 ++ (Printer.lines (column + 2) value ++ (blanks n ++ rest))) := by
    rw [hline] at h
    exact h
  let b : Nest := ⟨ts, column, outer⟩
  -- the blank is skipped, and a value that stands further in closes nothing
  have htoken : (b.scanner r false).toToken = some (b.scanner (r.advance 1) false) := by
    rw [Nest.toToken_blanks hat (hbegins _ _), Nest.close_of_le]
    show (column : Int) ≤ ((k + 1 : Nat) : Int)
    omega
  obtain ⟨r', hr', hleads⟩ := hleads (b := b) hat.advance_blanks hrest rfl hn
    (Nat.lt_succ_of_lt hk)
  refine ⟨_, r', htoken, ?_, hr', hleads⟩
  show (r.advance 1).rest.length ≤ _
  rw [hat.advance_blanks.rest, hline]
  exact Nat.le_succ _

theorem isScanned_nat (m : Nat) : IsScanned (.nat m) := by
  have htext : (Decimal.text m).toList = Decimal.encode m := by simp [Decimal.text]
  refine @isScanned_of_line (.nat m) (fun _ => rfl) (fun column rest => ?_)
    fun h hrest hb hn hk => ?_
  · obtain ⟨c, cs, hcs⟩ := List.exists_cons_of_ne_nil (Decimal.encode_ne_nil m)
    have hdigit : c.isDigit = true := Decimal.isDigit_of_mem_encode (n := m) (by simp [hcs])
    rw [Printer.lines, hcs]
    exact .of_class hdigit (by decide) (by decide)
  · rw [Printer.lines, List.append_assoc] at h
    obtain ⟨hwords, hlead⟩ := IsWords.of_nat m (blanks _ ++ _)
    rw [← htext] at h hwords hlead
    exact Nest.leads_plain hwords hlead h hrest (by omega) (by omega)

theorem isScanned_text (s : String) : IsScanned (.text s) := by
  refine @isScanned_of_line (.text s) (fun _ => rfl) (fun _ _ => ?_) fun h hrest hb hn hk => ?_
  · rw [Printer.lines]
    exact begins_textLines _ s _
  · rw [Printer.lines] at h
    exact Nest.leads_text h hrest (by omega) (by omega) (by omega)

end Outline

/-! ## Mappings -/

section

variable {key : String} {value : Outline} {entries : List (String × Outline)} {n column : Nat}
  {rest : List Char}

/-- A key begins with a letter. -/
theorem begins_entryLines (hne : entries ≠ []) (hkeys : ∀ e ∈ entries, IsName e.1) :
    Begins (entryLines column entries ++ rest) := by
  obtain ⟨⟨key, value⟩, entries, rfl⟩ := List.exists_cons_of_ne_nil hne
  have hkey : IsName key := hkeys _ List.mem_cons_self
  obtain ⟨c, cs, hcs⟩ := List.exists_cons_of_ne_nil hkey.ne_nil
  have halpha : c.isAlpha = true := hkey.letters c (by simp [hcs])
  rw [Outline.entryLines_cons column hkey, hcs]
  exact .of_class halpha (by decide) (by decide)

theorem endsWord_behindKey (column : Nat) (value : Outline) (rest : List Char) :
    endsWord (Outline.behindKey column value ++ rest) = true := by
  match value with
  | .null | .bool _ | .nat _ | .text _ | .list [] | .list (_ :: _) | .mapping []
  | .mapping (_ :: _) => rfl

namespace Nest

variable {b : Nest} {ts : List Token} {outer : List Int} {r : Reader}

/-- The entries of a mapping. The first key opens it, unless it is open. -/
theorem leads_entries (hne : entries ≠ []) (hkeys : ∀ e ∈ entries, IsName e.1)
    (hvalues : ∀ e ∈ entries, e.2.IsScanned)
    (hopen : ∀ key, b.openKey column key =
      ⟨.value :: .scalar .plain key :: .key :: ts, column, outer⟩)
    (hindent : b.indent ≤ column)
    (h : r.At column (entryLines column entries ++ (blanks n ++ rest))) (hrest : Begins rest)
    (hn : n ≤ column) :
    ∃ r', r'.At n rest ∧ (b.scanner r true).Leads
      (((⟨(Outline.entryTokens entries).reverse ++ ts, column, outer⟩ : Nest).close n).scanner
        r' true) := by
  -- behind the first entry the mapping is open, so the hypothesis is used with the nest it opens
  induction entries generalizing b ts r with
  | nil => exact absurd rfl hne
  | cons entry more ih =>
      obtain ⟨key, value⟩ := entry
      obtain ⟨hkey, hkeys⟩ := List.forall_mem_cons.1 hkeys
      obtain ⟨hvalue, hvalues⟩ := List.forall_mem_cons.1 hvalues
      -- the key and its value, in front of a token
      have hentry {m : Nat} {after : List Char} (hafter : Begins after) (hm : m ≤ column)
          (hat : r.At column
            (key.toList ++ ':' :: (Outline.behindKey column value ++ (blanks m ++ after)))) :
          ∃ r', r'.At m after ∧ (b.scanner r true).Leads
            (((⟨value.tokens.reverse ++ .value :: .scalar .plain key :: .key :: ts, column, outer⟩ :
              Nest).close m).scanner r' true) := by
        obtain ⟨r', hr', hleads⟩ :=
          leads_key (b := b) hkey hat (endsWord_behindKey column value _) hindent
        rw [hopen] at hleads
        obtain ⟨u, r'', hu, hless, hr'', hleads'⟩ := hvalue hr' hafter hm (by omega)
        exact ⟨r'', hr'', (hleads u hu hless).trans hleads'⟩
      rw [Outline.entryLines_cons column hkey] at h
      cases more with
      | nil =>
          -- what follows the last entry is outside of the mapping, or the end
          have hlines : entryLines column [] = [] := by rw [entryLines]
          obtain ⟨r', hr', hleads⟩ := hentry hrest hn (by simpa [hlines] using h)
          refine ⟨r', hr', ?_⟩
          simpa [Outline.entryTokens] using hleads
      | cons next more =>
          have hbegins : Begins (entryLines column (next :: more) ++ (blanks n ++ rest)) :=
            begins_entryLines (by simp) hkeys
          obtain ⟨r', hr', hleads⟩ := hentry hbegins (Nat.le_refl column) (by simpa using h)
          rw [close_of_le (Int.le_refl _)] at hleads
          obtain ⟨r'', hr'', hleads'⟩ := @ih
            ⟨value.tokens.reverse ++ .value :: .scalar .plain key :: .key :: ts, column, outer⟩
            (value.tokens.reverse ++ .value :: .scalar .plain key :: .key :: ts) r' (by simp) hkeys
            hvalues (fun key => by simp [openKey]) (Int.le_refl _) hr'
          refine ⟨r'', hr'', hleads.trans ?_⟩
          simpa [Outline.entryTokens] using hleads'

end Nest

theorem Outline.isScanned_mapping (hne : entries ≠ []) (hkeys : ∀ e ∈ entries, IsName e.1)
    (hvalues : ∀ e ∈ entries, e.2.IsScanned) : IsScanned (.mapping entries) := by
  intro ts outer column k n rest r h hrest hn hk
  have hbehind : behindKey column (.mapping entries) =
      '\n' :: (blanks (column + 2) ++ entryLines (column + 2) entries) := by
    obtain ⟨e, es, rfl⟩ := List.exists_cons_of_ne_nil hne
    simp [behindKey, Printer.behindKey, Printer.lines]
  let b : Nest := ⟨ts, column, outer⟩
  have hat : r.At k ('\n' :: (blanks (column + 2) ++
      (entryLines (column + 2) entries ++ (blanks n ++ rest)))) := by
    rw [hbehind] at h
    simpa using h
  have hbegins : Begins (entryLines (column + 2) entries ++ (blanks n ++ rest)) :=
    begins_entryLines hne hkeys
  have hnext : (r.nextLine.advance (column + 2)).At (column + 2)
      (entryLines (column + 2) entries ++ (blanks n ++ rest)) := by
    simpa using (hat.nextLine (by decide)).advance_blanks
  have htoken : (b.scanner r false).toToken =
      some (b.scanner (r.nextLine.advance (column + 2)) true) := by
    rw [Nest.toToken_break hat (by decide) hbegins, Nest.close_of_le]
    show (column : Int) ≤ ((column + 2 : Nat) : Int)
    omega
  -- the mapping is closed where the next token stands further left
  obtain ⟨r', hr', hleads⟩ := @Nest.leads_entries entries n (column + 2) rest b
    (.blockMappingStart :: ts) (column :: outer) _ hne hkeys hvalues (fun key => if_neg (by
      show ¬ ((column + 2 : Nat) : Int) ≤ column
      omega)) (by
      show (column : Int) ≤ ((column + 2 : Nat) : Int)
      omega) hnext hrest (by omega)
  rw [Nest.close_of_lt (by omega)] at hleads
  refine ⟨_, r', htoken, ?_, hr', ?_⟩
  · show (r.nextLine.advance (column + 2)).rest.length ≤ _
    rw [hnext.rest, hbehind]
    simp
    omega
  · rw [tokens_mapping hne]
    simpa using hleads

theorem Outline.IsSettings.isScanned {o : Outline} (h : o.IsSettings) : o.IsScanned := by
  induction h with
  | nat m => exact isScanned_nat m
  | text s => exact isScanned_text s
  | mapping hne hkeys _ ih => exact isScanned_mapping hne hkeys ih

end

/-! ## Nodes -/

namespace Outline

/-- The tokens of a value are read as a node without anchors, which is the tree. -/
def IsRead (o : Outline) : Prop :=
  ∀ {fuel : Nat} (handles : Node.Handles) (indentless : Bool) (more : List Token),
    o.tokens.length ≤ fuel → ∃ node,
      Node.read handles true indentless fuel (o.tokens ++ more) = some (node, more) ∧
      ∀ anchors, Tree.ofNode? node anchors = some (o.tree, anchors)

theorem isRead_scalar {o : Outline} {style : Style} {s : String}
    (htokens : o.tokens = [.scalar style s]) (htree : o.tree = .scalar none style s) :
    o.IsRead := by
  intro fuel handles indentless more hfuel
  obtain ⟨fuel, rfl⟩ := Nat.exists_eq_add_one_of_ne_zero (show fuel ≠ 0 by
    rintro rfl
    simp [htokens] at hfuel)
  refine ⟨.scalar {} style s, ?_, fun anchors => ?_⟩
  · rw [htokens]
    rfl
  · rw [htree]
    rfl

/-- The first token of settings begins a node. -/
theorem IsSettings.orEmpty_eq {o : Outline} (h : o.IsSettings)
    (read : List Token → Option (Node × List Token)) (more : List Token) :
    Node.orEmpty (Node.isBlockStop true) read (o.tokens ++ more) = read (o.tokens ++ more) := by
  cases h with
  | nat m => rfl
  | text s => rfl
  | mapping hne =>
      rw [tokens_mapping hne]
      rfl

theorem readBlockEntries_eq {entries : List (String × Outline)} {fuel : Nat}
    (hvalues : ∀ e ∈ entries, e.2.IsSettings) (hread : ∀ e ∈ entries, e.2.IsRead)
    (handles : Node.Handles) (more : List Token) (hfuel : (entryTokens entries).length < fuel) :
    ∃ nodes, Node.readBlockEntries handles fuel (entryTokens entries ++ .blockEnd :: more) =
        some (nodes, more) ∧
      ∀ anchors, Tree.ofEntries? nodes anchors = some (entryTrees entries, anchors) := by
  induction entries generalizing fuel with
  | nil =>
      obtain ⟨fuel, rfl⟩ := Nat.exists_eq_add_one_of_ne_zero (Nat.ne_of_gt hfuel)
      exact ⟨[], rfl, fun anchors => rfl⟩
  | cons entry entries ih =>
      obtain ⟨key, value⟩ := entry
      obtain ⟨hvalue, hvalues⟩ := List.forall_mem_cons.1 hvalues
      obtain ⟨hnode, hread⟩ := List.forall_mem_cons.1 hread
      rw [entryTokens] at hfuel ⊢
      simp only [List.length_cons, List.length_append] at hfuel
      -- the key alone has three tokens, so the fuel is enough for it and for what follows
      obtain ⟨fuel, rfl⟩ : ∃ more, fuel = more + 2 := ⟨fuel - 2, by omega⟩
      have hlength : value.tokens.length ≤ fuel + 1 := by omega
      obtain ⟨node, hnode, htree⟩ :=
        hnode handles true (entryTokens entries ++ .blockEnd :: more) hlength
      obtain ⟨nodes, hnodes, htrees⟩ := ih hvalues hread (show _ < fuel + 1 by omega)
      have hkey (rest : List Token) : Node.orEmpty (Node.isBlockStop true)
          (Node.read handles true true (fuel + 1)) (.scalar .plain key :: rest) =
            some (.scalar {} .plain key, rest) := rfl
      refine ⟨(.scalar {} .plain key, node) :: nodes, ?_, fun anchors => ?_⟩
      · rw [List.cons_append, List.cons_append, List.cons_append, List.append_assoc,
          Node.readBlockEntries]
        simp only [hkey, Option.bind_eq_bind, Option.bind_some, hvalue.orEmpty_eq, hnode, hnodes]
        rfl
      · have hkeyTree : Tree.ofNode? (.scalar {} .plain key) anchors =
            some (.scalar none .plain key, anchors) := rfl
        rw [Tree.ofEntries?, entryTrees]
        simp only [hkeyTree, htree, htrees, Option.bind_eq_bind, Option.bind_some]
        rfl

theorem isRead_mapping {entries : List (String × Outline)} (hne : entries ≠ [])
    (hvalues : ∀ e ∈ entries, e.2.IsSettings) (hread : ∀ e ∈ entries, e.2.IsRead) :
    IsRead (.mapping entries) := by
  intro fuel handles indentless more hfuel
  rw [tokens_mapping hne] at hfuel ⊢
  simp only [List.length_cons, List.length_append, List.length_nil] at hfuel
  obtain ⟨fuel, rfl⟩ : ∃ more, fuel = more + 1 := ⟨fuel - 1, by omega⟩
  obtain ⟨nodes, hnodes, htrees⟩ :=
    readBlockEntries_eq hvalues hread handles more (show _ < fuel by omega)
  refine ⟨.mapping {} nodes, ?_, fun anchors => ?_⟩
  · rw [List.cons_append, List.append_assoc]
    show (Node.readBlockEntries handles fuel (entryTokens entries ++ .blockEnd :: more)).map _ = _
    rw [hnodes]
    rfl
  · show (Tree.ofEntries? nodes anchors).map _ = _
    rw [htrees, tree]
    rfl

theorem IsSettings.isRead {o : Outline} (h : o.IsSettings) : o.IsRead := by
  induction h with
  | nat m => exact isRead_scalar (by rw [tokens]) (by rw [tree])
  | text s => exact isRead_scalar (by rw [tokens]) (by rw [tree])
  | mapping hne _ hvalues ih => exact isRead_mapping hne hvalues ih

end Outline

/-! ## Documents -/

theorem isPrintable_entryLines {entries : List (String × Outline)} {column : Nat}
    (hkeys : ∀ e ∈ entries, IsName e.1)
    (hvalues : ∀ e ∈ entries, ∀ column, IsPrintable (e.2.behindKey column)) :
    IsPrintable (entryLines column entries) := by
  induction entries with
  | nil => simp [IsPrintable, entryLines]
  | cons entry entries ih =>
      obtain ⟨key, value⟩ := entry
      obtain ⟨hkey, hkeys⟩ := List.forall_mem_cons.1 hkeys
      obtain ⟨hvalue, hvalues⟩ := List.forall_mem_cons.1 hvalues
      rw [Outline.entryLines_cons column hkey]
      refine .append (fun c hc => ?_) (.cons (by decide) (.append (hvalue column) (.append ?_
        (ih hkeys hvalues))))
      · exact isPrintable_of_isAlphanum (by simp [Char.isAlphanum, hkey.letters c hc])
      · split
        · simp [IsPrintable]
        · exact .blanks column

theorem Outline.IsSettings.isPrintable {o : Outline} (h : o.IsSettings) (column : Nat) :
    IsPrintable (o.behindKey column) := by
  induction h generalizing column with
  | nat m =>
      show IsPrintable (' ' :: Printer.lines (column + 2) (.nat m))
      refine .cons (by decide) ?_
      rw [Printer.lines]
      refine .append (fun c hc => ?_) (.cons (by decide) (by simp [IsPrintable]))
      have hdigit := Decimal.isDigit_of_mem_encode hc
      exact isPrintable_of_isAlphanum (by simp [Char.isAlphanum, hdigit])
  | text s =>
      show IsPrintable (' ' :: Printer.lines (column + 2) (.text s))
      refine .cons (by decide) ?_
      rw [Printer.lines]
      exact .textLines _ s
  | @mapping entries hne hkeys _ ih =>
      -- the entries stand on lines of their own, so blanks and a break come first
      obtain ⟨e, es, rfl⟩ := List.exists_cons_of_ne_nil hne
      show IsPrintable ('\n' :: blanks (column + 2) ++
        Printer.lines (column + 2) (.mapping (e :: es)))
      refine .append (.cons (by decide) (.blanks _)) ?_
      rw [Printer.lines]
      · exact isPrintable_entryLines hkeys ih
      · simp

section

variable {entries : List (String × Outline)}

theorem toList_render (hne : entries ≠ []) :
    (Printer.render (.mapping entries)).toList = entryLines 0 entries := by
  obtain ⟨e, es, rfl⟩ := List.exists_cons_of_ne_nil hne
  simp [Printer.render, Printer.lines]

theorem tokens?_render (h : (Outline.mapping entries).IsSettings) :
    tokens? (Printer.render (.mapping entries)).toList = some (Outline.mapping entries).tokens := by
  cases h with
  | mapping hne hkeys hvalues =>
      have hprintable : IsPrintable (entryLines 0 entries) :=
        isPrintable_entryLines hkeys fun e he => (hvalues e he).isPrintable
      have hallowed : (entryLines 0 entries).all isAllowed = true :=
        List.all_eq_true.2 fun c hc => isAllowed_of_isPrintable (hprintable c hc)
      -- outside of all collections even the first column is further right
      let b : Nest := ⟨[], -1, []⟩
      let r : Reader := { rest := entryLines 0 entries }
      have hat : r.At 0 (entryLines 0 entries ++ (blanks 0 ++ [])) := ⟨rfl, by simp [blanks, r]⟩
      have hstart : (b.scanner r true).toToken = some (b.scanner r true) :=
        Nest.toToken_blanks (n := 0) hat (begins_entryLines hne hkeys)
      obtain ⟨r', hr', hleads⟩ := @Nest.leads_entries entries 0 0 [] b [.blockMappingStart] [-1] r
        hne hkeys (fun e he => (hvalues e he).isScanned) (fun key => rfl) (by decide) hat (by
          simp [Begins]) (Nat.le_refl 0)
      rw [Nest.close_of_le (by simp)] at hleads
      rw [toList_render hne, tokens?, if_pos hallowed, unifyBreaks_eq hprintable]
      refine (Scanner.run_of_leads hstart hleads hr'.rest (Nat.lt_succ_self _)).trans ?_
      rw [Scanner.finish, Nest.closeBlocks_scanner, Nest.close_of_lt (by decide),
        Nest.close_of_le (Int.le_refl _), Outline.tokens_mapping hne]
      simp [Scanner.removeKey, Nest.scanner]

/-- Settings that were written are a document, whose tree holds them. -/
theorem only?_render (h : (Outline.mapping entries).IsSettings) :
    Contents.only? (Printer.render (.mapping entries)) =
      some (some ⟨(Outline.mapping entries).tree, {}⟩) := by
  obtain ⟨node, hread, htree⟩ := h.isRead Node.standardHandles false []
    (show _ ≤ 3 * (Outline.mapping entries).tokens.length + 10 by omega)
  have hnodes : Node.ofTokens? (Outline.mapping entries).tokens = some [node] := by
    rw [List.append_nil] at hread
    cases h with
    | mapping hne =>
        rw [Outline.tokens_mapping hne] at hread ⊢
        simp only [Node.ofTokens?, hread, Option.bind_eq_bind, Option.bind_some]
        rfl
  rw [Contents.only?, Contents.all?, Node.documents?, tokens?_render h, Option.bind_some, hnodes,
    Option.bind_some]
  simp [Contents.ofNode?, htree]

end

end ClusterLifecycle.Yaml
