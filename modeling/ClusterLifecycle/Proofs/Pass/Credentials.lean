import ClusterLifecycle.Proofs.Pass.Plan
import Mathlib.Data.List.Basic

/-!
# The cluster of a release and its credentials

A release may hold any number of documents that describe clusters. The observation of the release
reports the last of these clusters only: its status, and the credentials in the two secrets that it
names. A credential that cannot be had is left out, and nothing else comes of it.

Main statement: `observation_of_last_cluster` says that an observation that is given the release and
an answer for every document succeeds, that it reports the last cluster, and that the answers for
the secrets make no difference but to the credentials.
-/

namespace ClusterLifecycle

/-- A document that was examined. -/
structure Examination where
  document : Manifest.Document
  /-- The namespace of a cluster that names none. -/
  defaultSpace : String
  /-- The cluster that the document describes, if any. -/
  found : Option Descriptor
deriving DecidableEq

/-- A secret that was looked up. -/
structure SecretRead where
  space : String
  name : String
  answer : Except Failure (Option Secret)

/-- The text under a key of a secret that was looked up, if the secret could be read and has it. -/
def SecretRead.text? (r : SecretRead) (key : String) : Option String :=
  r.answer.toOption.join.bind (·.text? key)

namespace Call

/-- The examination that an answer completes. -/
def examination? : (c : Call) → Except Failure c.Result → Option Examination
  | .extract document space, .ok found => some ⟨document, space, found⟩
  | _, _ => none

/-- The look-up of a secret that an answer completes, a failure being an answer as well. -/
def secretRead? : (c : Call) → Except Failure c.Result → Option SecretRead
  | .getSecret space name, answer => some ⟨space, name, answer⟩
  | _, _ => none

/-- The call is one for a release that is answered with the given one, or one for the cluster in a
document that is answered, or another call. -/
def Sees (release : Release) : (c : Call) → Except Failure c.Result → Prop
  | .getRelease .., answer => answer = .ok release
  | .extract .., answer => ∃ found, answer = .ok found
  | _, _ => True

end Call

namespace Pass

/-! ## Views of an observation -/

/-- The documents that were examined. -/
def examinations (t : Trace) : List Examination :=
  t.filterMap fun e => e.request.examination? e.answer

/-- The secrets that were looked up. -/
def secretReads (t : Trace) : List SecretRead :=
  t.filterMap fun e => e.request.secretRead? e.answer

/-- The clusters that were found. -/
def clusters (t : Trace) : List Descriptor :=
  (examinations t).filterMap (·.found)

/-- The release is the given one, and there is an answer for every document. -/
def Sees (release : Release) (t : Trace) : Prop :=
  ∀ e ∈ t, e.request.Sees release e.answer

theorem clusters_eq (t : Trace) :
    clusters t = ((examinations t).map (·.found)).filterMap id := by
  rw [List.filterMap_map]
  rfl

theorem examinations_append (t u : Trace) :
    examinations (t ++ u) = examinations t ++ examinations u :=
  List.filterMap_append

theorem secretReads_append (t u : Trace) :
    secretReads (t ++ u) = secretReads t ++ secretReads u :=
  List.filterMap_append

/-! ## The last cluster -/

/-- The documents are examined one after another. -/
def examining (space : String) (documents : List Manifest.Document)
    (found : List (Option Descriptor)) : Trace :=
  (documents.zip found).map fun pair => ⟨.extract pair.1 space, .ok pair.2⟩

theorem examinations_examining (space : String) (documents : List Manifest.Document)
    (found : List (Option Descriptor)) :
    examinations (examining space documents found) =
      (documents.zip found).map fun pair => ⟨pair.1, space, pair.2⟩ := by
  rw [examinations, examining, List.filterMap_map]
  exact congrFun List.filterMap_eq_map _

theorem secretReads_examining (space : String) (documents : List Manifest.Document)
    (found : List (Option Descriptor)) : secretReads (examining space documents found) = [] := by
  rw [secretReads, examining, List.filterMap_map]
  exact List.filterMap_eq_nil_iff.2 fun _ _ => rfl

/-- The search ends with the last cluster, if every document is answered for. -/
theorem ends_descriptorFrom_iff {space : String} {last result : Option Descriptor}
    {documents : List Manifest.Document} {t : Trace} :
    Traces (descriptorFrom space last documents) t (.ends result) ↔
      ∃ found : List (Option Descriptor), found.length = documents.length ∧
        t = examining space documents found ∧ result = (found.filterMap id).getLast?.or last := by
  -- induction on the documents, for every cluster that may have been found before them
  induction documents generalizing last result t with
  | nil =>
      constructor
      · intro h
        obtain ⟨rfl, hs⟩ := traces_pure.1 h
        cases hs
        exact ⟨[], rfl, rfl, rfl⟩
      · rintro ⟨found, hlength, rfl, rfl⟩
        cases List.length_eq_zero_iff.1 hlength
        exact traces_pure.2 ⟨rfl, rfl⟩
  | cons d rest ih =>
      rw [descriptorFrom_cons]
      -- a cluster that is found takes the place of the one from before
      have hlast (answer : Option Descriptor) (found : List (Option Descriptor)) :
          ((answer :: found).filterMap id).getLast?.or last =
            (found.filterMap id).getLast?.or (answer.or last) := by
        cases answer with
        | none => rfl
        | some d =>
            show (d :: found.filterMap id).getLast?.or last = _
            rw [List.getLast?_cons]
            cases (found.filterMap id).getLast? <;> rfl
      constructor
      · intro h
        obtain ⟨answer, u, rfl, hu⟩ := ends_call_bind h
        obtain ⟨found, hlength, rfl, rfl⟩ := ih.1 hu
        exact ⟨answer :: found, by simp [hlength], rfl, (hlast answer found).symm⟩
      · rintro ⟨found, hlength, rfl, rfl⟩
        cases found with
        | nil => exact absurd hlength (by simp)
        | cons answer found =>
            have hrest : Traces (descriptorFrom space (answer.or last) rest)
                (examining space rest found)
                (.ends ((found.filterMap id).getLast?.or (answer.or last))) :=
              ih.2 ⟨found, by simpa using hlength, rfl, rfl⟩
            rw [hlast]
            exact traces_call_bind.2 (.inr (.inr ⟨answer, _, rfl, hrest⟩))

/-- The search does not fail if every document is answered for. -/
theorem ends_of_sees {space : String} {last : Option Descriptor}
    {documents : List Manifest.Document} {release : Release} {t : Trace}
    {s : Stand collaborators Failure (Option Descriptor)}
    (h : Traces (descriptorFrom space last documents) t s) (complete : s.next? = none)
    (sees : Sees release t) : ∃ result, s = .ends result := by
  induction documents generalizing last t with
  | nil => exact ⟨_, (traces_pure.1 h).2⟩
  | cons d rest ih =>
      rw [descriptorFrom_cons] at h
      rcases traces_call_bind.1 h with ⟨rfl, rfl⟩ | ⟨e, rfl, rfl⟩ | ⟨answer, u, rfl, hu⟩
      · exact absurd complete (by simp)
      · obtain ⟨found, hfound⟩ := sees _ (List.mem_singleton_self _)
        cases hfound
      · exact ih hu fun e he => sees e (List.mem_cons_of_mem _ he)

/-! ## What an observation reports -/

/-- What an observation reports of the clusters that it found and of the secrets that it looked
up. -/
inductive Reports (release : Release) (t : Trace) : Observation → Prop where
  /-- There is no cluster, so no secret is looked up. -/
  | bare (empty : clusters t = []) (unread : secretReads t = []) :
      Reports release t
        { status := release.status, password := none, serverUrl := none, kubeconfigSecret := "" }
  /-- All that is reported is of the last cluster and of the two secrets that it names. -/
  | nested {d : Descriptor} {password kubeconfig : SecretRead}
      (last : (clusters t).getLast? = some d)
      (reads : secretReads t = [password, kubeconfig])
      (spaces : password.space = d.space ∧ kubeconfig.space = d.space)
      (names : password.name = d.passwordSecret ∧ kubeconfig.name = d.kubeconfigSecret) :
      Reports release t
        { status := d.status
          password := password.text? passwordKey
          serverUrl := (kubeconfig.text? kubeconfigKey).bind Kubeconfig.apiServerUrl?
          kubeconfigSecret := d.kubeconfigSecret }

/-- The documents are all examined, in their order. -/
structure Examines (i : Instance) (documents : List Manifest.Document) (t : Trace) : Prop where
  documents : (examinations t).map (·.document) = documents
  spaces : ∀ x ∈ examinations t, x.defaultSpace = i.namespaceName

/-- A secret is being looked up, or there is an answer and nothing fails. -/
theorem traces_secretText_bind {α : Type} {space name key : String} {f : Option String → Pass α}
    {t : Trace} {s : Stand collaborators Failure α} :
    Traces (secretText space name key >>= f) t s ↔
      (t = [] ∧ s = .halts (.asks (.getSecret space name))) ∨
        ∃ answer rest, t = ⟨.getSecret space name, answer⟩ :: rest ∧
          Traces (f ((⟨space, name, answer⟩ : SecretRead).text? key)) rest s := by
  constructor
  · intro h
    rcases traces_bind.1 h with ⟨r, hr, rfl⟩ | ⟨a, t₁, t₂, rfl, h₁, h₂⟩
    -- the stage has not come behind the secret, so it is still asking for it
    · rcases traces_secretText.1 hr with ⟨rfl, hs⟩ | ⟨answer, -, hs⟩
      · cases hs
        exact .inl ⟨rfl, rfl⟩
      · exact absurd hs (by simp)
    · rcases traces_secretText.1 h₁ with ⟨-, hs⟩ | ⟨answer, rfl, hs⟩
      · exact absurd hs (by simp)
      · cases hs
        exact .inr ⟨answer, t₂, rfl, h₂⟩
  · rintro (⟨rfl, rfl⟩ | ⟨answer, rest, rfl, h⟩)
    · exact traces_bind.2 (.inl ⟨_, traces_secretText.2 (.inl ⟨rfl, rfl⟩), rfl⟩)
    · exact traces_bind.2 (.inr ⟨_, [_], rest, rfl, traces_secretText.2 (.inr ⟨answer, rfl, rfl⟩),
        h⟩)

/-- The secrets that the last cluster names, if there is one, are looked up. -/
def reading (cluster : Option Descriptor) (password kubeconfig : Except Failure (Option Secret)) :
    Trace :=
  match cluster with
  | none => []
  | some d => [⟨.getSecret d.space d.passwordSecret, password⟩,
      ⟨.getSecret d.space d.kubeconfigSecret, kubeconfig⟩]

/-- An observation from beginning to end. -/
def observing (i : Instance) (release : Release) (documents : List Manifest.Document)
    (found : List (Option Descriptor)) (password kubeconfig : Except Failure (Option Secret)) :
    Trace :=
  ⟨.getRelease i.name i.namespaceName, .ok release⟩ ::
    (examining i.namespaceName documents found ++
      reading (found.filterMap id).getLast? password kubeconfig)

variable {i : Instance} {release : Release} {documents : List Manifest.Document}
  {found : List (Option Descriptor)} {password kubeconfig : Except Failure (Option Secret)}

theorem examinations_observing :
    examinations (observing i release documents found password kubeconfig) =
      (documents.zip found).map fun pair => ⟨pair.1, i.namespaceName, pair.2⟩ := by
  have hreading (cluster : Option Descriptor) :
      examinations (reading cluster password kubeconfig) = [] := by cases cluster <;> rfl
  show examinations (_ ++ _) = _
  rw [examinations_append, examinations_examining, hreading, List.append_nil]

theorem secretReads_observing :
    secretReads (observing i release documents found password kubeconfig) =
      secretReads (reading (found.filterMap id).getLast? password kubeconfig) := by
  show secretReads (_ ++ _) = _
  rw [secretReads_append, secretReads_examining, List.nil_append]

theorem found_observing (hlength : found.length = documents.length) :
    (examinations (observing i release documents found password kubeconfig)).map (·.found) =
      found := by
  rw [examinations_observing, List.map_map]
  exact List.map_snd_zip (Nat.le_of_eq hlength)

theorem clusters_observing (hlength : found.length = documents.length) :
    clusters (observing i release documents found password kubeconfig) = found.filterMap id := by
  rw [clusters_eq, found_observing hlength]

theorem examines_observing (hlength : found.length = documents.length) :
    Examines i documents (observing i release documents found password kubeconfig) := by
  constructor
  · rw [examinations_observing, List.map_map]
    exact List.map_fst_zip (Nat.le_of_eq hlength.symm)
  · rw [examinations_observing]
    intro x hx
    obtain ⟨pair, -, rfl⟩ := List.mem_map.1 hx
    rfl

theorem sees_observing :
    Sees release (observing i release documents found password kubeconfig) := by
  intro e he
  -- only the answer for the release is settled, those for clusters and secrets are free
  rcases List.mem_cons.1 he with rfl | he
  · rfl
  rcases List.mem_append.1 he with he | he
  · obtain ⟨pair, -, rfl⟩ := List.mem_map.1 he
    exact ⟨pair.2, rfl⟩
  · cases hlast : (found.filterMap id).getLast? with
    | none =>
        rw [hlast] at he
        exact absurd he (by simp [reading])
    | some d =>
        rw [hlast] at he
        rcases List.mem_cons.1 he with rfl | he
        · trivial
        · cases List.mem_singleton.1 he
          trivial

/-- Whatever the answers for the documents and the secrets are, there is an observation that gets
them, and it succeeds. -/
theorem exists_observation (accepted : Manifest.read i.name release.manifest = .ok documents)
    (hlength : found.length = documents.length)
    (password kubeconfig : Except Failure (Option Secret)) :
    ∃ o, Traces (observe i) (observing i release documents found password kubeconfig) (.ends o) ∧
      Reports release (observing i release documents found password kubeconfig) o := by
  have hsearch : Traces (descriptorFrom i.namespaceName none documents)
      (examining i.namespaceName documents found) (.ends (found.filterMap id).getLast?) :=
    ends_descriptorFrom_iff.2 ⟨found, hlength, rfl, (Option.or_none).symm⟩
  have hclusters : clusters (observing i release documents found password kubeconfig) =
      found.filterMap id := clusters_observing hlength
  have hreads : secretReads (observing i release documents found password kubeconfig) =
      secretReads (reading (found.filterMap id).getLast? password kubeconfig) :=
    secretReads_observing
  -- up to the secrets, every observation of these documents goes the same way
  suffices hrest : ∃ o, Traces (report release (found.filterMap id).getLast?)
      (reading (found.filterMap id).getLast? password kubeconfig) (.ends o) ∧
        Reports release (observing i release documents found password kubeconfig) o by
    obtain ⟨o, htraces, hreports⟩ := hrest
    refine ⟨o, ?_, hreports⟩
    refine traces_call_bind.2 (.inr (.inr ⟨release, _, rfl, ?_⟩))
    refine traces_check_bind.2 (.inr ⟨documents, accepted, ?_⟩)
    exact traces_bind.2 (.inr ⟨_, _, _, rfl, hsearch, htraces⟩)
  cases hlast : (found.filterMap id).getLast? with
  | none =>
      rw [hlast] at hreads
      refine ⟨_, traces_pure.2 ⟨rfl, rfl⟩, .bare ?_ hreads⟩
      rw [hclusters, List.getLast?_eq_none_iff.1 hlast]
  | some d =>
      rw [hlast] at hreads
      refine ⟨_, ?_, .nested (hclusters ▸ hlast) hreads ⟨rfl, rfl⟩ ⟨rfl, rfl⟩⟩
      refine traces_secretText_bind.2 (.inr ⟨password, _, rfl, ?_⟩)
      refine traces_secretText_bind.2 (.inr ⟨kubeconfig, _, rfl, ?_⟩)
      exact traces_pure.2 ⟨rfl, rfl⟩

/-- There are no other observations than these. -/
theorem observing_of_traces (accepted : Manifest.read i.name release.manifest = .ok documents)
    {t : Trace} {s : Stand collaborators Failure Observation} (h : Traces (observe i) t s)
    (complete : s.next? = none) (sees : Sees release t) :
    ∃ found password kubeconfig, found.length = documents.length ∧
      t = observing i release documents found password kubeconfig := by
  rcases traces_call_bind.1 h with ⟨rfl, rfl⟩ | ⟨e, rfl, rfl⟩ | ⟨answer, u, rfl, hu⟩
  · exact absurd complete (by simp)
  · exact absurd (sees _ (List.mem_singleton_self _)) (by simp [Call.Sees])
  have hanswer : answer = release := Except.ok.inj (sees _ List.mem_cons_self)
  subst hanswer
  have seesRest : Sees answer u := fun e he => sees e (List.mem_cons_of_mem _ he)
  -- the manifest is the one that was accepted, so the check cannot fail
  rcases traces_check_bind.1 hu with ⟨e, he, -, -⟩ | ⟨read, hread, hv⟩
  · exact absurd (accepted.symm.trans he) (by simp)
  cases accepted.symm.trans hread
  rcases traces_bind.1 hv with ⟨r, hr, rfl⟩ | ⟨result, v, w, rfl, hsearch, hrest⟩
  · obtain ⟨result, hresult⟩ := ends_of_sees hr (by cases r <;> simp_all) seesRest
    exact absurd hresult (by simp)
  obtain ⟨found, hlength, rfl, hlast⟩ := ends_descriptorFrom_iff.1 hsearch
  rw [Option.or_none] at hlast
  subst hlast
  -- what is left are the secrets, and they are read only if there is a cluster
  suffices hreading : ∃ password kubeconfig,
      w = reading (found.filterMap id).getLast? password kubeconfig by
    obtain ⟨password, kubeconfig, rfl⟩ := hreading
    exact ⟨found, password, kubeconfig, hlength, rfl⟩
  have hrest' : Traces (report answer (found.filterMap id).getLast?) w s := hrest
  cases hcluster : (found.filterMap id).getLast? with
  | none =>
      rw [hcluster] at hrest'
      exact ⟨.ok none, .ok none, (traces_pure.1 hrest').1⟩
  | some d =>
      rw [hcluster] at hrest'
      rcases traces_secretText_bind.1 hrest' with ⟨-, rfl⟩ | ⟨password, w₁, rfl, h₁⟩
      · exact absurd complete (by simp)
      rcases traces_secretText_bind.1 h₁ with ⟨-, rfl⟩ | ⟨kubeconfig, w₂, rfl, h₂⟩
      · exact absurd complete (by simp)
      obtain ⟨rfl, -⟩ := traces_pure.1 h₂
      exact ⟨password, kubeconfig, rfl⟩

/-! ## The answers for the secrets -/

/-- Two observations of one release report the same, the credentials apart, and each credential goes
by the answer for its secret. -/
structure SameButCredentials (t t' : Trace) (o o' : Observation) : Prop where
  status : o.status = o'.status
  kubeconfigSecret : o.kubeconfigSecret = o'.kubeconfigSecret
  newStatus : ∀ before,
    { o.newStatus before with kubeadminPassword := none, apiServerUrl := none } =
      { o'.newStatus before with kubeadminPassword := none, apiServerUrl := none }
  password : (secretReads t).head? = (secretReads t').head? → o.password = o'.password
  serverUrl : (secretReads t).getLast? = (secretReads t').getLast? → o.serverUrl = o'.serverUrl

theorem sameButCredentials_of_reports {t t' : Trace} {o o' : Observation}
    (h : Reports release t o) (h' : Reports release t' o') (hclusters : clusters t = clusters t') :
    SameButCredentials t t' o o' := by
  -- with the same clusters both are bare, or both report the same one
  cases h with
  | bare empty unread =>
      cases h' with
      | bare empty' unread' => exact ⟨rfl, rfl, fun _ => rfl, fun _ => rfl, fun _ => rfl⟩
      | nested last' reads' =>
          rw [← hclusters, empty] at last'
          exact absurd last' (by simp)
  | nested last reads =>
      cases h' with
      | bare empty' unread' =>
          rw [hclusters, empty'] at last
          exact absurd last (by simp)
      | nested last' reads' =>
          rw [hclusters, last', Option.some.injEq] at last
          subst last
          refine ⟨rfl, rfl, fun _ => rfl, ?_, ?_⟩
          · rw [reads, reads']
            intro hsame
            cases hsame
            rfl
          · rw [reads, reads']
            intro hsame
            cases hsame
            rfl

/-- Let the manifest of the release be read, and let there be an answer for every document. Then the
observation succeeds, whatever the answers are, it examines every document and reports the last
cluster, and two observations with the same answers for the documents report the same but the
credentials. -/
theorem observation_of_last_cluster
    (accepted : Manifest.read i.name release.manifest = .ok documents) :
    (∀ (found : List (Option Descriptor)) (password kubeconfig : Except Failure (Option Secret)),
      found.length = documents.length →
        ∃ t o, Traces (observe i) t (.ends o) ∧ Sees release t ∧
          (examinations t).map (·.found) = found ∧
          (clusters t = [] ∨ (secretReads t).map (·.answer) = [password, kubeconfig])) ∧
    (∀ t s, Traces (observe i) t s → s.next? = none → Sees release t →
      ∃ o, s = .ends o ∧ Examines i documents t ∧ Reports release t o) ∧
    ∀ t t' o o', Traces (observe i) t (.ends o) → Traces (observe i) t' (.ends o') →
      Sees release t → Sees release t' →
      (examinations t).map (·.found) = (examinations t').map (·.found) →
        SameButCredentials t t' o o' := by
  have hreports : ∀ t s, Traces (observe i) t s → s.next? = none → Sees release t →
      ∃ o, s = .ends o ∧ Examines i documents t ∧ Reports release t o := by
    intro t s h complete sees
    obtain ⟨found, password, kubeconfig, hlength, rfl⟩ :=
      observing_of_traces accepted h complete sees
    obtain ⟨o, ho, hreports⟩ := exists_observation accepted hlength password kubeconfig
    exact ⟨o, h.unique ho, examines_observing hlength, hreports⟩
  refine ⟨?_, hreports, ?_⟩
  · intro found password kubeconfig hlength
    obtain ⟨o, ho, hreports⟩ := exists_observation accepted hlength password kubeconfig
    refine ⟨_, o, ho, sees_observing, found_observing hlength, ?_⟩
    rw [clusters_observing hlength, secretReads_observing]
    -- without a cluster no secret is read, with one both are
    cases hlast : (found.filterMap id).getLast? with
    | none => exact .inl (List.getLast?_eq_none_iff.1 hlast)
    | some d => exact .inr rfl
  · intro t t' o o' h h' sees sees' hsame
    obtain ⟨_, hs, -, hreports₁⟩ := hreports t _ h rfl sees
    obtain ⟨_, hs', -, hreports₂⟩ := hreports t' _ h' rfl sees'
    cases hs
    cases hs'
    apply sameButCredentials_of_reports hreports₁ hreports₂
    rw [clusters_eq, clusters_eq, hsame]

/-! ### A release with two clusters

The secret with the password of the second one is there, its kubeconfig cannot be read. -/

namespace Sample

def hosted (name : String) (space : Option String) : Manifest.Document :=
  .hostedCluster ⟨{ name := some name, namespaceName := space }, [], none⟩

def twins : List Manifest.Document :=
  [hosted "b" none, .other (some "Service"), hosted "c" (some "m")]

def twinRelease : Release where
  name := "a"
  space := "n"
  status := "deployed"
  manifest := "kind: HostedCluster\nmetadata: \x7bname: b\x7d\nspec: \x7b\x7d\n" ++
    "---\nkind: Service\n---\n" ++
    "kind: HostedCluster\nmetadata: \x7bname: c, namespace: m\x7d\nspec: \x7b\x7d\n"

def twinAnswers : List (Option Descriptor) :=
  [some (.describe "b" "n" none), none, some (.describe "c" "m" none)]

/-- A secret with a password. -/
def passwordSecret : Secret where
  data := some [(passwordKey, Text.Utf8.encode "sesame")]

theorem second_twin_is_reported :
    Manifest.read draft.name twinRelease.manifest = .ok twins ∧
      ∃ t, Traces (observe draft) t (.ends ⟨"Pending", some "sesame", none, "c-admin-kubeconfig"⟩) ∧
        (secretReads t).map (fun r => (r.space, r.name)) =
          [("m", "c-kubeadmin-password"), ("m", "c-admin-kubeconfig")] := by
  have accepted : Manifest.read draft.name twinRelease.manifest = .ok twins := by decide +kernel
  obtain ⟨hexists, hreports, -⟩ := observation_of_last_cluster accepted
  obtain ⟨t, o, h, sees, hfound, hreads⟩ := hexists twinAnswers (.ok (some passwordSecret))
    (.error (.kube (.undecodable ""))) rfl
  obtain ⟨_, hends, -, hreport⟩ := hreports t _ h rfl sees
  cases hends
  have hclusters : clusters t = [.describe "b" "n" none, .describe "c" "m" none] := by
    rw [clusters_eq, hfound]
    rfl
  refine ⟨accepted, t, ?_⟩
  cases hreport with
  | bare empty => exact absurd (hclusters.symm.trans empty) (by simp)
  | @nested d password kubeconfig last reads spaces names =>
      rw [hclusters] at last
      cases last
      -- the answers for the secrets are those that were given
      rw [reads] at hreads
      obtain ⟨hpassword, hkubeconfig⟩ : password.answer = .ok (some passwordSecret) ∧
          kubeconfig.answer = .error (.kube (.undecodable "")) := by
        rcases hreads with hempty | hanswers
        · exact absurd (hclusters.symm.trans hempty) (by simp)
        · simpa using hanswers
      have hsesame : password.text? passwordKey = some "sesame" := by
        rw [SecretRead.text?, hpassword]
        decide +kernel
      have hmissing : kubeconfig.text? kubeconfigKey = none := by
        rw [SecretRead.text?, hkubeconfig]
        rfl
      rw [hsesame, hmissing] at h
      refine ⟨h, ?_⟩
      rw [reads]
      simp only [List.map_cons, List.map_nil, spaces, names]
      decide +kernel

end Sample

end Pass

end ClusterLifecycle
