import ClusterLifecycle.Proofs.Url.Hostnames
import ClusterLifecycle.Proofs.Url.Paths
import ClusterLifecycle.Url.Reference

/-!
# Reading plain URLs and references

The URL of a plain path on a host of letters is read as what it is written from, whatever the base.
A reference to a plain path, with `..` in front, begins at the directory of its base.

Main statements: `read_webText` and `read_upward`.
-/

namespace ClusterLifecycle.Url

/-! ## Plain URLs -/

/-- The URL of a path on a host. -/
def onHost (host : Hostname) (path : List String) : Url where
  scheme := "https"
  authority := some { host := .name host.text }
  path := .rooted path

/-- The URL of a path on a host as it is written. -/
def webText (host : Hostname) (path : List String) : String :=
  "https://" ++ host.text ++ String.join (path.map ("/" ++ ·))

variable (host : Hostname) {path : List String}

theorem text_onHost (path : List String) : (onHost host path).text = webText host path := by
  have hscheme : "https" ++ ":" ++ "//" = "https://" := by decide
  have hauthority : Authority.text { host := .name host.text } = host.text := by
    simp [Authority.text, Authority.hasUser, Host.text]
  have hpath : (Path.rooted path).text = String.join (path.map ("/" ++ ·)) := rfl
  rw [Url.text, onHost]
  simp only [hauthority, hpath, Option.map_none, Option.getD_none, String.append_empty]
  rw [webText, ← hscheme, ← String.append_assoc]

/-- The path behind a host as it is written: pieces behind slashes. -/
theorem join_slash (h : path ≠ []) :
    String.join (path.map ("/" ++ ·)) = "/" ++ "/".intercalate path := by
  induction path with
  | nil => exact absurd rfl h
  | cons piece path ih =>
      cases path with
      | nil => simp
      | cons next path =>
          rw [List.map_cons, String.join_cons, ih (List.cons_ne_nil _ _),
            String.intercalate_cons_cons, String.append_assoc, String.append_assoc]

theorem isPathChar_of_mem_join (h : ∀ piece ∈ path, IsPlain piece) :
    ∀ c ∈ (String.join (path.map ("/" ++ ·))).toList, isPathChar c = true := by
  intro c hc
  rw [String.toList_join, List.flatMap_map] at hc
  obtain ⟨piece, hpiece, hc⟩ := List.mem_flatMap.1 hc
  rw [String.toList_append, List.mem_append] at hc
  rcases hc with hc | hc
  · obtain rfl : c = '/' := by simpa using hc
    decide
  · rw [isPathChar, (h piece hpiece).chars c hc, Bool.true_or]

/-! ## Characters that count -/

theorem significant_eq {text : String} (h : ∀ c ∈ text.toList, isMargin c = false) :
    significant text = text.toList := by
  have hstart : text.toList.dropWhile isMargin = text.toList :=
    List.dropWhile_eq_self_iff.2 fun hne => by simpa using h _ (List.getElem_mem hne)
  have hend : text.toList.reverse.dropWhile isMargin = text.toList.reverse :=
    List.dropWhile_eq_self_iff.2 fun hne => by
      simpa using h _ (List.mem_reverse.1 (List.getElem_mem hne))
  have hkept : text.toList.filter (!isSkipped ·) = text.toList := by
    rw [List.filter_eq_self]
    intro c hc
    have hskipped : isSkipped c = true → isMargin c = true := by
      simp only [isSkipped, Bool.or_eq_true, beq_iff_eq]
      rintro ((rfl | rfl) | rfl) <;> decide
    cases hc' : isSkipped c with
    | false => rfl
    | true => exact absurd ((h c hc).symm.trans (hskipped hc')) (by simp)
  rw [significant, hstart, hend, List.reverse_reverse, hkept]

/-! ## Hosts -/

variable {rest : List Char}

/-- Behind the host nothing stands, or a slash. -/
theorem eq_nil_or_slash (h : rest.head?.all (· == '/') = true) :
    rest = [] ∨ ∃ more, rest = '/' :: more := by
  cases rest with
  | nil => exact .inl rfl
  | cons c more =>
      obtain rfl : c = '/' := by simpa using h
      exact .inr ⟨more, rfl⟩

theorem endsAuthority_name {c : Char} (h : isNameChar c = true) : endsAuthority true c = false := by
  have hslash : c ≠ '/' := Text.ne_of_class h (by decide)
  have hback : c ≠ '\\' := Text.ne_of_class h (by decide)
  have hquery : c ≠ '?' := Text.ne_of_class h (by decide)
  have hfragment : c ≠ '#' := Text.ne_of_class h (by decide)
  simp [endsAuthority, isSlash, endsPath, hslash, hback, hquery, hfragment]

theorem takeWhile_name (h : rest.head?.all (· == '/') = true) :
    (host.text.toList ++ rest).takeWhile (!endsAuthority true ·) = host.text.toList := by
  have hname : ∀ c ∈ host.text.toList, (!endsAuthority true c) = true := by
    intro c hc
    rw [endsAuthority_name (host.isNameChar_of_mem c hc)]
    rfl
  have hstop : rest.takeWhile (!endsAuthority true ·) = [] := by
    rcases eq_nil_or_slash h with rfl | ⟨more, rfl⟩ <;> rfl
  rw [List.takeWhile_append_of_pos hname, hstop, List.append_nil]

/-- Nobody is named in front of the host. -/
theorem splitUser_name (h : rest.head?.all (· == '/') = true) :
    splitUser true (host.text.toList ++ rest) = none := by
  have hat : host.text.toList.contains '@' = false := by
    rw [Bool.eq_false_iff]
    intro hmem
    have hchar := host.isNameChar_of_mem '@' (List.contains_iff_mem.1 hmem)
    exact absurd hchar (by decide)
  rw [splitUser, takeWhile_name host h]
  simp only [hat]
  rfl

theorem hostLength_name {cs : List Char} (hcs : ∀ c ∈ cs, isNameChar c = true)
    (h : rest.head?.all (· == '/') = true) :
    hostLength true false (cs ++ rest) = cs.length := by
  induction cs with
  | nil => rcases eq_nil_or_slash h with rfl | ⟨more, rfl⟩ <;> rfl
  | cons c cs ih =>
      obtain ⟨hc, hcs⟩ := List.forall_mem_cons.1 hcs
      have hcolon : c ≠ ':' := Text.ne_of_class hc (by decide)
      have hbracket : c ≠ '[' := Text.ne_of_class hc (by decide)
      rw [List.cons_append, hostLength, endsAuthority_name hc, beq_false_of_ne hcolon,
        beq_false_of_ne hbracket]
      simp [ih hcs]

theorem readPlace_name (h : rest.head?.all (· == '/') = true) :
    readPlace "https" (host.text.toList ++ rest) = .ok (.name host.text, none, rest) := by
  have hspecial : isSpecial "https" = true := by decide
  have hlength := hostLength_name host.isNameChar_of_mem h
  have hempty : (host.text.toList.length == 0) = false := by
    simpa using host.toList_text_ne_nil
  rw [readPlace]
  simp only [hspecial, hlength, hempty, Bool.and_false, List.take_left, List.drop_left,
    Host.ofDomain_text]
  -- behind the host there is no colon, so there is no port
  rcases eq_nil_or_slash h with rfl | ⟨more, rfl⟩ <;> rfl

theorem beforeTail_path (h : ∀ c ∈ rest, isPathChar c = true) :
    beforeTail rest = rest ∧ tail rest = [] := by
  have hends : ∀ c ∈ rest, (!endsPath c) = true := by
    intro c hc
    have hquery : c ≠ '?' := Text.ne_of_class (h c hc) (by decide)
    have hfragment : c ≠ '#' := Text.ne_of_class (h c hc) (by decide)
    simp [endsPath, hquery, hfragment]
  exact ⟨List.takeWhile_eq_self_iff.2 hends, List.dropWhile_eq_nil_iff.2 hends⟩

theorem readAuthority_name (h : rest.head?.all (· == '/') = true)
    (hchars : ∀ c ∈ rest, isPathChar c = true) :
    readAuthority "https" (host.text.toList ++ rest) =
      .ok (onHost host (Path.readBehindHost "https" rest)) := by
  have hspecial : isSpecial "https" = true := by decide
  obtain ⟨hpath, htail⟩ := beforeTail_path hchars
  rw [readAuthority]
  simp only [hspecial, splitUser_name host h, pure_bind, readPlace_name host h]
  show (if Host.name host.text = .name "" ∧ false = true then _ else _) = _
  rw [if_neg (by simp)]
  simp only [hpath, htail]
  rfl

theorem splitScheme_https (cs : List Char) :
    splitScheme ("https:".toList ++ cs) = some ("https", cs) := by
  rfl

/-- Two slashes begin an authority, also where there is a base. -/
theorem readScheme_https (base : Option Url) {cs : List Char}
    (h : cs.head?.all (!isSlash true ·) = true) :
    readScheme base "https" ('/' :: '/' :: cs) = readAuthority "https" cs := by
  have hslashes : (('/' :: '/' :: cs).takeWhile (isSlash true)).length = 2 := by
    cases cs with
    | nil => rfl
    | cons c cs =>
        have hc : isSlash true c = false := by simpa using h
        have hfirst : isSlash true '/' = true := by decide
        simp [hc, hfirst]
  have hfile : ("https" == fileScheme) = false := by decide
  have hspecial : isSpecial "https" = true := by decide
  have hbase : base.filter (fun b => b.scheme == "https" && decide (2 < 2)) = none := by
    simp
  rw [readScheme, hfile, hspecial, hslashes]
  simp only [hbase]
  rfl

theorem isMargin_of_isNameChar {c : Char} (h : isNameChar c = true) : isMargin c = false :=
  of_isNameChar (P := fun c => isMargin c = false) (by decide) h

theorem isMargin_of_isPathChar {c : Char} (h : isPathChar c = true) : isMargin c = false := by
  rcases Bool.or_eq_true_iff.1 h with hplain | hslash
  · exact of_isPlainChar (P := fun c => isMargin c = false) (by decide) hplain
  · obtain rfl : c = '/' := eq_of_beq hslash
    decide

theorem significant_webText (h : ∀ piece ∈ path, IsPlain piece) :
    significant (webText host path) = "https:".toList ++ '/' :: '/' ::
      (host.text.toList ++ (String.join (path.map ("/" ++ ·))).toList) := by
  have htext : (webText host path).toList = "https:".toList ++ '/' :: '/' ::
      (host.text.toList ++ (String.join (path.map ("/" ++ ·))).toList) := by
    rw [webText, String.toList_append, String.toList_append, List.append_assoc]
    rfl
  rw [significant_eq, htext]
  intro c hc
  rw [htext, List.mem_append, List.mem_cons, List.mem_cons, List.mem_append] at hc
  rcases hc with hc | rfl | rfl | hc | hc
  · have hscheme : "https:".toList.all (!isMargin ·) = true := by decide
    simpa using List.all_eq_true.1 hscheme c hc
  · decide
  · decide
  · exact isMargin_of_isNameChar (host.isNameChar_of_mem c hc)
  · exact isMargin_of_isPathChar (isPathChar_of_mem_join h c hc)

theorem readBehindHost_join (h : ∀ piece ∈ path, IsPlain piece) :
    Path.readBehindHost "https" (String.join (path.map ("/" ++ ·))).toList =
      if path = [] then [""] else path := by
  have hspecial : isSpecial "https" = true := by decide
  by_cases hpath : path = []
  · subst hpath
    simp [Path.readBehindHost, hspecial]
  · have hread := Path.readFrom_plain (List.forall_mem_nil IsPlain) h hpath 0
    rw [List.replicate_zero, List.nil_append, List.rdrop_nil, List.nil_append] at hread
    rw [join_slash hpath, String.toList_append, if_neg hpath]
    exact hread

/-- The URL of a plain path is read, and nothing of a base counts. -/
theorem read_webText (base : Option Url) (h : ∀ piece ∈ path, IsPlain piece) :
    read base (webText host path) = .ok (onHost host (if path = [] then [""] else path)) := by
  obtain ⟨c, more, hmore⟩ := List.exists_cons_of_ne_nil host.toList_text_ne_nil
  have hslash : (host.text.toList ++ (String.join (path.map ("/" ++ ·))).toList).head?.all
      (!isSlash true ·) = true := by
    have hc := endsAuthority_name (host.isNameChar_of_mem c (hmore ▸ List.mem_cons_self))
    simp [hmore, (Bool.or_eq_false_iff.1 hc).1]
  have hjoin : (String.join (path.map ("/" ++ ·))).toList.head?.all (· == '/') = true := by
    by_cases hpath : path = []
    · subst hpath
      rfl
    · rw [join_slash hpath, String.toList_append]
      rfl
  -- scheme, host and path in the order in which they are read
  unfold Url.read
  simp only [significant_webText host h, splitScheme_https]
  rw [readScheme_https base hslash, readAuthority_name host hjoin (isPathChar_of_mem_join h),
    readBehindHost_join h]

/-! ## References -/

theorem directory_onHost (base : List String) : (onHost host base).directory = base.dropLast := by
  cases hlast : base.getLast? with
  | none =>
      obtain rfl : base = [] := List.getLast?_eq_none_iff.1 hlast
      rfl
  | some last =>
      have hfile : ((onHost host base).scheme == fileScheme) = false := rfl
      have hsegments : (onHost host base).segments.getLast? = some last := hlast
      simp only [directory, hsegments, hfile, Bool.false_and]
      rfl

/-- Without a colon there is no scheme. -/
theorem splitScheme_path {cs : List Char} (h : ∀ c ∈ cs, isPathChar c = true) :
    splitScheme cs = none := by
  unfold splitScheme
  split
  next rest hrest =>
    have hcolon : ':' ∈ cs := (List.dropWhile_suffix _).subset (hrest ▸ List.mem_cons_self)
    exact absurd (h ':' hcolon) (by decide)
  · rfl

/-- A text of path characters that does not begin with a slash is a path from the directory of the
base on. -/
theorem read_path {text : String} {c : Char} {more : List Char} (htext : text.toList = c :: more)
    (hc : isPlainChar c = true) (h : ∀ d ∈ text.toList, isPathChar d = true) (base : List String) :
    read (some (onHost host base)) text =
      .ok (onHost host (Path.readFrom "https" base.dropLast text.toList)) := by
  have hfragment : c ≠ '#' := Text.ne_of_class hc (by decide)
  have hquery : c ≠ '?' := Text.ne_of_class hc (by decide)
  have hslash : c ≠ '/' := Text.ne_of_class hc (by decide)
  have hback : c ≠ '\\' := Text.ne_of_class hc (by decide)
  -- with no mark in front only the path of the base is changed
  have hrelative : readRelative (onHost host base) text.toList =
      .ok (onHost host (Path.readFrom "https" base.dropLast text.toList)) := by
    obtain ⟨hpath, htail⟩ := beforeTail_path h
    have hbelow : readRelative.below (onHost host base) base.dropLast text.toList =
        onHost host (Path.readFrom "https" base.dropLast text.toList) := by
      rw [readRelative.below, hpath, htail]
      rfl
    rw [htext] at hbelow ⊢
    unfold readRelative
    rw [← hbelow]
    simp [hfragment, hquery, hslash, hback, isSlash, directory_onHost]
  have hsignificant := significant_eq fun d hd => isMargin_of_isPathChar (h d hd)
  unfold Url.read
  simp only [hsignificant, splitScheme_path h]
  split
  next hmore =>
    rw [htext] at hmore
    injection hmore with hfirst
    exact absurd hfirst hfragment
  next hpath _ => exact absurd hpath (by simp [onHost])
  · exact hrelative

/-- A plain reference begins at the directory of its base, or as many directories above as it has
`..` in front. -/
theorem read_upward {base : List String} (hbase : ∀ piece ∈ base, IsPlain piece)
    (h : ∀ piece ∈ path, IsPlain piece) (hempty : ∀ piece ∈ path, piece ≠ "") (hpath : path ≠ [])
    (k : ℕ) :
    read (some (onHost host base)) ("/".intercalate (List.replicate k ".." ++ path)) =
      .ok (onHost host (base.dropLast.rdrop k ++ path)) := by
  have hplain := Path.isPlainChar_upward h k
  have hdirectory : ∀ piece ∈ base.dropLast, IsPlain piece :=
    fun piece hpiece => hbase piece (List.dropLast_subset base hpiece)
  have hread := Path.readFrom_plain hdirectory h hpath k
  have hpieces : ∀ piece ∈ List.replicate k ".." ++ path, piece ≠ "" := by
    intro piece hpiece
    rcases List.mem_append.1 hpiece with hpiece | hpiece
    · rw [List.eq_of_mem_replicate hpiece]
      decide
    · exact hempty piece hpiece
  have hne : List.replicate k ".." ++ path ≠ [] := by simp [hpath]
  rw [← hread]
  generalize List.replicate k ".." ++ path = pieces at hplain hpieces hne
  -- the reference begins with the first character of its first piece
  obtain ⟨first, others, rfl⟩ := List.exists_cons_of_ne_nil hne
  obtain ⟨c, more, hfirst⟩ := List.exists_cons_of_ne_nil
    (mt String.toList_eq_nil_iff.1 (hpieces first List.mem_cons_self))
  have htext : ("/".intercalate (first :: others)).toList =
      c :: ['/'].intercalate (more :: others.map String.toList) := by
    rw [String.toList_intercalate, List.map_cons, hfirst, List.intercalate_cons_cons_left]
    rfl
  exact read_path host htext (hplain first List.mem_cons_self c (hfirst ▸ List.mem_cons_self))
    (Path.isPathChar_of_mem_slashes hplain) base

end ClusterLifecycle.Url
