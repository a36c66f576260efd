import ClusterLifecycle.Json.Printer
import ClusterLifecycle.Operator.Calls
import ClusterLifecycle.Proofs.Pass.Stages
import ClusterLifecycle.Proofs.Results
import ClusterLifecycle.Proofs.Setup.Serving

/-!
# Which chart is installed

The chart of a template is looked up in the first repository with the name that the template gives,
and there in the first entry for exactly the declared version. `Search` lists the ways in which that
search ends: it comes to the chart and the values to install it with, or something is missing.

Main statement: `installs_declared_chart` says that a chart is installed exactly if the search comes
to it, that the installation decides the result then, and that otherwise the result is what was
missing first, two kinds of which are references to something that does not exist.
-/

namespace ClusterLifecycle

/-! ## First elements -/

/-- The element is the first one of a list with a property. -/
def IsFirst {α : Type} (p : α → Prop) (xs : List α) (x : α) : Prop :=
  p x ∧ ∃ before after, xs = before ++ x :: after ∧ ∀ y ∈ before, ¬ p y

theorem find?_eq_some_iff_isFirst {α : Type} {p : α → Bool} {xs : List α} {x : α} :
    xs.find? p = some x ↔ IsFirst (p · = true) xs x := by
  rw [List.find?_eq_some_iff_append]
  simp [IsFirst]

namespace Pass

variable {α : Type} {i : Instance} {t : Template}

/-! ## What is looked up -/

/-- The values that a document of an instance gives to a chart: none if there is no document. -/
inductive Gives : Option Json → Table Json → Prop where
  | nothing : Gives none []
  | null : Gives (some .null) []
  | mapping (members : Table Json) : Gives (some (.obj members)) members

/-- The index has an entry for the chart of a template in exactly the declared version, and the
first such entry begins its URLs with `reference`. -/
def Offers (t : Template) (index : ChartIndex) (reference : String) : Prop :=
  ∃ versions version others, Table.get? t.spec.helmChart index.entries = some versions ∧
    IsFirst (·.version = t.spec.helmChartVersion) versions version ∧
    version.urls = reference :: others

theorem values_eq_ok_iff_gives {members : Table Json} :
    values i = .ok members ↔ Gives i.spec.values members := by
  unfold values
  constructor
  · intro h
    -- no values, null, a mapping, or anything else, which is refused
    split at h
    · cases h
      simp only [*]
      exact .nothing
    · cases h
      simp only [*]
      exact .null
    · cases h
      simp only [*]
      exact .mapping _
    · exact absurd h (by simp)
  · intro h
    cases hvalues : i.spec.values <;> rw [hvalues] at h <;> cases h <;> rfl

theorem values_eq_error_iff {f : Failure} :
    values i = .error f ↔ ∃ v, i.spec.values = some v ∧ v ≠ .null ∧ (∀ members, v ≠ .obj members) ∧
      f = .invalidValues i.name ("expected a mapping, found " ++ kindOfValue v) := by
  unfold values
  cases hvalues : i.spec.values with
  | none => simp
  | some v => cases v <;> simp [eq_comm]

theorem orFail_eq_ok_iff {f : Failure} {found : Option α} {a : α} :
    orFail f found = .ok a ↔ found = some a := by
  cases found <;> simp [orFail]

theorem orFail_eq_error_iff {f g : Failure} {found : Option α} :
    orFail f found = .error g ↔ found = none ∧ g = f := by
  cases found <;> simp [orFail, eq_comm]

theorem url?_eq_some_iff {index : ChartIndex} {reference : String} :
    index.url? t.spec.helmChart t.spec.helmChartVersion = some reference ↔
      Offers t index reference := by
  unfold ChartIndex.url? Offers
  simp only [Option.bind_eq_bind, Option.bind_eq_some_iff, find?_eq_some_iff_isFirst, beq_iff_eq,
    List.head?_eq_some_iff]
  constructor
  · rintro ⟨versions, hchart, version, hfirst, others, hurls⟩
    exact ⟨versions, version, others, hchart, hfirst, hurls⟩
  · rintro ⟨versions, version, others, hchart, hfirst, hurls⟩
    exact ⟨versions, hchart, version, hfirst, others, hurls⟩

theorem location_eq_error {repository chart : String} {f : Failure}
    (h : Chart.location repository chart = .error f) :
    ∃ message, f = .chartUrl repository chart message := by
  simp only [Chart.location] at h
  split at h
  · exact absurd h (by simp)
  · cases h
    exact ⟨_, rfl⟩

/-! ## The search for a chart -/

/-- The ways in which the search for the chart of a template ends: with the URL of the chart and the
values to install it with, or with what is missing. -/
inductive Search (i : Instance) (t : Template) :
    Trace → Except Failure (String × Table Json) → Prop where
  /-- The values are no mapping, so nothing is looked up. -/
  | invalidValues {v : Json} (given : i.spec.values = some v) (notNull : v ≠ .null)
      (noMapping : ∀ members, v ≠ .obj members) :
      Search i t []
        (.error (.invalidValues i.name ("expected a mapping, found " ++ kindOfValue v)))
  /-- The repositories cannot be listed. -/
  | unlisted {vs : Table Json} {f : Failure} (gives : Gives i.spec.values vs) :
      Search i t [⟨.listRepositories, .error f⟩] (.error f)
  /-- No repository has the name. -/
  | repositoryNotFound {vs : Table Json} {rs : List Repository} (gives : Gives i.spec.values vs)
      (none : ∀ r ∈ rs, r.name ≠ t.spec.helmRepository) :
      Search i t [⟨.listRepositories, .ok rs⟩] (.error (.repositoryNotFound t.spec.helmRepository))
  /-- The index of the repository cannot be fetched. -/
  | unfetched {vs : Table Json} {rs : List Repository} {r : Repository} {f : Failure}
      (gives : Gives i.spec.values vs) (first : IsFirst (·.name = t.spec.helmRepository) rs r) :
      Search i t [⟨.listRepositories, .ok rs⟩, ⟨.fetchIndex r.url, .error f⟩] (.error f)
  /-- The index does not offer the chart in the version. -/
  | chartNotFound {vs : Table Json} {rs : List Repository} {r : Repository} {index : ChartIndex}
      (gives : Gives i.spec.values vs) (first : IsFirst (·.name = t.spec.helmRepository) rs r)
      (none : ∀ reference, ¬ Offers t index reference) :
      Search i t [⟨.listRepositories, .ok rs⟩, ⟨.fetchIndex r.url, .ok index⟩]
        (.error (.chartNotFound t.spec.helmRepository t.spec.helmChart t.spec.helmChartVersion))
  /-- What the index offers is no URL of a chart. -/
  | unresolved {vs : Table Json} {rs : List Repository} {r : Repository} {index : ChartIndex}
      {reference message : String} (gives : Gives i.spec.values vs)
      (first : IsFirst (·.name = t.spec.helmRepository) rs r) (offers : Offers t index reference)
      (resolves : Chart.location r.url reference = .error (.chartUrl r.url reference message)) :
      Search i t [⟨.listRepositories, .ok rs⟩, ⟨.fetchIndex r.url, .ok index⟩]
        (.error (.chartUrl r.url reference message))
  /-- Nothing is missing. -/
  | found {vs : Table Json} {rs : List Repository} {r : Repository} {index : ChartIndex}
      {reference chart : String} (gives : Gives i.spec.values vs)
      (first : IsFirst (·.name = t.spec.helmRepository) rs r) (offers : Offers t index reference)
      (resolves : Chart.location r.url reference = .ok chart) :
      Search i t [⟨.listRepositories, .ok rs⟩, ⟨.fetchIndex r.url, .ok index⟩] (.ok (chart, vs))

theorem search_of_traces {tr : Trace} {r : Except Failure (String × Table Json)}
    (h : Traces (search i t) tr (.ofExcept r)) : Search i t tr r := by
  -- each check and each call either ends the search or leads to the next one
  rcases traces_check_bind.1 h with ⟨f, hvalues, rfl, hr⟩ | ⟨vs, hvalues, hlisting⟩
  · obtain ⟨v, given, notNull, noMapping, rfl⟩ := values_eq_error_iff.1 hvalues
    rw [Stand.ofExcept_eq_fails_iff.1 hr]
    exact .invalidValues given notNull noMapping
  have gives := values_eq_ok_iff_gives.1 hvalues
  rcases traces_call_bind.1 hlisting with ⟨-, hr⟩ | ⟨f, rfl, hr⟩ | ⟨rs, u, rfl, hselection⟩
  · exact absurd hr (Stand.ofExcept_ne_asks _ _)
  · rw [Stand.ofExcept_eq_fails_iff.1 hr]
    exact .unlisted gives
  rcases traces_check_bind.1 hselection with ⟨f, hfirst, rfl, hr⟩ | ⟨repository, hfirst, hfetch⟩
  · obtain ⟨hnone, rfl⟩ := orFail_eq_error_iff.1 hfirst
    rw [Stand.ofExcept_eq_fails_iff.1 hr]
    exact .repositoryNotFound gives (by simpa using hnone)
  have first : IsFirst (·.name = t.spec.helmRepository) rs repository := by
    simpa using find?_eq_some_iff_isFirst.1 (orFail_eq_ok_iff.1 hfirst)
  rcases traces_call_bind.1 hfetch with ⟨-, hr⟩ | ⟨f, rfl, hr⟩ | ⟨index, u, rfl, hoffer⟩
  · exact absurd hr (Stand.ofExcept_ne_asks _ _)
  · rw [Stand.ofExcept_eq_fails_iff.1 hr]
    exact .unfetched gives first
  rcases traces_check_bind.1 hoffer with ⟨f, hurl, rfl, hr⟩ | ⟨reference, hurl, hresolution⟩
  · obtain ⟨hnone, rfl⟩ := orFail_eq_error_iff.1 hurl
    rw [Stand.ofExcept_eq_fails_iff.1 hr]
    refine .chartNotFound gives first fun reference hoffers => ?_
    rw [url?_eq_some_iff.2 hoffers] at hnone
    exact absurd hnone (by simp)
  have offers := url?_eq_some_iff.1 (orFail_eq_ok_iff.1 hurl)
  rcases traces_check_bind.1 hresolution with
    ⟨f, hlocation, rfl, hr⟩ | ⟨chart, hlocation, hend⟩
  · obtain ⟨message, rfl⟩ := location_eq_error hlocation
    rw [Stand.ofExcept_eq_fails_iff.1 hr]
    exact .unresolved gives first offers hlocation
  · obtain ⟨rfl, hr⟩ := traces_pure.1 hend
    rw [Stand.ofExcept_eq_ends_iff.1 hr]
    exact .found gives first offers hlocation

/-- The search gets to the first repository with the name, and goes on there. -/
theorem traces_search_of_isFirst {vs : Table Json} {rs : List Repository} {r : Repository}
    {u : Trace} {s : Stand collaborators Failure (String × Table Json)}
    (gives : Gives i.spec.values vs) (first : IsFirst (·.name = t.spec.helmRepository) rs r)
    (h : Traces (searchIn r t vs) u s) :
    Traces (search i t) (⟨.listRepositories, .ok rs⟩ :: u) s := by
  have hfind : rs.find? (·.name == t.spec.helmRepository) = some r :=
    find?_eq_some_iff_isFirst.2 (by simpa using first)
  refine traces_check_bind.2 (.inr ⟨vs, values_eq_ok_iff_gives.2 gives, ?_⟩)
  refine traces_call_bind.2 (.inr (.inr ⟨rs, u, rfl, ?_⟩))
  exact traces_check_bind.2 (.inr ⟨r, orFail_eq_ok_iff.2 hfind, h⟩)

/-- In the index the search gets to the first URL that is offered, and goes on with it. -/
theorem traces_searchIn_of_offers {r : Repository} {vs : Table Json} {index : ChartIndex}
    {reference : String} {s : Stand collaborators Failure (String × Table Json)}
    (offers : Offers t index reference)
    (h : Traces (liftExcept (Chart.location r.url reference) >>= fun chart => pure (chart, vs))
      [] s) :
    Traces (searchIn r t vs) [⟨.fetchIndex r.url, .ok index⟩] s := by
  refine traces_call_bind.2 (.inr (.inr ⟨index, [], rfl, ?_⟩))
  exact traces_check_bind.2 (.inr ⟨reference, orFail_eq_ok_iff.2 (url?_eq_some_iff.2 offers), h⟩)

theorem traces_of_search {tr : Trace} {r : Except Failure (String × Table Json)}
    (h : Search i t tr r) : Traces (search i t) tr (.ofExcept r) := by
  -- each way a search can end, with what was asked up to there
  cases h with
  | invalidValues given notNull noMapping =>
      have hvalues := values_eq_error_iff.2 ⟨_, given, notNull, noMapping, rfl⟩
      exact traces_check_bind.2 (.inl ⟨_, hvalues, rfl, rfl⟩)
  | unlisted gives =>
      refine traces_check_bind.2 (.inr ⟨_, values_eq_ok_iff_gives.2 gives, ?_⟩)
      exact traces_call_bind.2 (.inr (.inl ⟨_, rfl, rfl⟩))
  | repositoryNotFound gives none =>
      refine traces_check_bind.2 (.inr ⟨_, values_eq_ok_iff_gives.2 gives, ?_⟩)
      refine traces_call_bind.2 (.inr (.inr ⟨_, [], rfl, ?_⟩))
      refine traces_check_bind.2 (.inl ⟨_, orFail_eq_error_iff.2 ⟨?_, rfl⟩, rfl, rfl⟩)
      simpa using none
  | unfetched gives first =>
      apply traces_search_of_isFirst gives first
      exact traces_call_bind.2 (.inr (.inl ⟨_, rfl, rfl⟩))
  | chartNotFound gives first none =>
      apply traces_search_of_isFirst gives first
      refine traces_call_bind.2 (.inr (.inr ⟨_, [], rfl, ?_⟩))
      refine traces_check_bind.2 (.inl ⟨_, orFail_eq_error_iff.2 ⟨?_, rfl⟩, rfl, rfl⟩)
      rw [Option.eq_none_iff_forall_ne_some]
      exact fun reference hurl => none reference (url?_eq_some_iff.1 hurl)
  | unresolved gives first offers resolves =>
      apply traces_search_of_isFirst gives first
      apply traces_searchIn_of_offers offers
      exact traces_check_bind.2 (.inl ⟨_, resolves, rfl, rfl⟩)
  | found gives first offers resolves =>
      apply traces_search_of_isFirst gives first
      apply traces_searchIn_of_offers offers
      exact traces_check_bind.2 (.inr ⟨_, resolves, traces_pure.2 ⟨rfl, rfl⟩⟩)

theorem traces_search_iff {tr : Trace} {r : Except Failure (String × Table Json)} :
    Traces (search i t) tr (.ofExcept r) ↔ Search i t tr r :=
  ⟨search_of_traces, traces_of_search⟩

/-! ## What the failures say

The failures of the search are those of the two calls, and its own. -/

/-- The answers of a trace are those that the operator gets for its calls, whatever it gets from
outside. -/
def IsCarriedOut (installer : Installer.Settings) (tr : Trace) : Prop :=
  ∀ e ∈ tr, ∃ u, Traces (Operator.perform installer e.request) u (.ofExcept e.answer)

/-- Repositories are listed unless the API server gives no usable answer. -/
theorem kube_of_listRepositories {installer : Installer.Settings}
    {u : List (Event Operator.outside)} {f : Failure}
    (h : Traces (Operator.perform installer .listRepositories) u (.halts (.fails f))) :
    ∃ fault, f = .kube fault := by
  rcases Operator.traces_resource_iff.1 h with ⟨fault, -, -, hs⟩ | ⟨r, -, ⟨-, hs⟩ | ⟨reply, -, hs⟩⟩
  · cases hs
    exact ⟨fault, rfl⟩
  · exact absurd hs (by simp)
  · have hfails := Stand.ofExcept_eq_fails_iff.1 hs.symm
    cases hread : reply.read (ApiServer.decodeList? Repository.decode?) with
    | ok rs => exact absurd (hread ▸ hfails) (by simp [Except.mapError])
    | error fault =>
        rw [hread] at hfails
        cases hfails
        exact ⟨fault, rfl⟩

/-- An index is fetched unless it cannot be had from its URL. -/
theorem indexFetch_of_fetchIndex {installer : Installer.Settings} {url : String}
    {u : List (Event Operator.outside)} {f : Failure}
    (h : Traces (Operator.perform installer (.fetchIndex url)) u (.halts (.fails f))) :
    ∃ message, f = .indexFetch url message := by
  have hdownload : (ExceptT.lift (Operator.download url) :
      Operator.Operation (Except String String)) =
      ExceptT.mk (.ask (Operator.Effect.download url) fun a => .done (.ok a)) := rfl
  rcases traces_bind.1 h with ⟨r, hr, hs⟩ | ⟨a, u₁, u₂, rfl, -, hread⟩
  · -- the download itself never fails, it may only say why there is no text
    cases hs
    rw [hdownload, traces_ask] at hr
    rcases hr with ⟨-, hs⟩ | ⟨a, -, hs⟩ <;> exact absurd hs (by simp)
  · cases a with
    | error reason =>
        cases (traces_throw.1 hread).2
        exact ⟨reason, rfl⟩
    | ok text =>
        have hfails := Stand.ofExcept_eq_fails_iff.1 (traces_liftExcept.1 hread).2.symm
        unfold ChartIndex.read at hfails
        split at hfails
        · exact absurd hfails (by simp)
        · cases hfails
          exact ⟨_, rfl⟩

/-- What is missing is a reference to something that does not exist exactly if it is a repository or
a chart that was not found. -/
theorem isMissingReference_iff_of_search {installer : Installer.Settings} {tr : Trace}
    {f : Failure} (hcarried : IsCarriedOut installer tr) (h : Search i t tr (.error f)) :
    f.isMissingReference = true ↔
      f = .repositoryNotFound t.spec.helmRepository ∨
        f = .chartNotFound t.spec.helmRepository t.spec.helmChart t.spec.helmChartVersion := by
  cases h with
  | invalidValues | repositoryNotFound | chartNotFound | unresolved =>
      simp [Failure.isMissingReference]
  | unlisted =>
      obtain ⟨u, hu⟩ := hcarried _ List.mem_cons_self
      obtain ⟨fault, rfl⟩ := kube_of_listRepositories hu
      simp [Failure.isMissingReference]
  | unfetched =>
      obtain ⟨u, hu⟩ := hcarried _ (List.mem_cons_of_mem _ List.mem_cons_self)
      obtain ⟨message, rfl⟩ := indexFetch_of_fetchIndex hu
      simp [Failure.isMissingReference]

/-! ## Installations -/

theorem traces_provision_asks_iff {tr : Trace} {chart release space : String}
    {vs : Table Json} :
    Traces (provision i t) tr (.halts (.asks (.install chart release space vs))) ↔
      Search i t tr (.ok (chart, vs)) ∧ release = i.name ∧ space = i.namespaceName := by
  rw [provision, traces_bind]
  constructor
  · rintro (⟨r, hsearch, hr⟩ | ⟨found, u, v, rfl, hsearch, hcall⟩)
    · -- the search itself only looks things up
      cases hr
      exact absurd (makes_search i t _ _ hsearch) (by simp [Call.isSearch])
    · rcases traces_call.1 hcall with ⟨rfl, hs⟩ | ⟨a, rfl, hs⟩
      · cases hs
        rw [List.append_nil]
        exact ⟨traces_search_iff.1 hsearch, rfl, rfl⟩
      · exact absurd hs.symm (Stand.ofExcept_ne_asks _ _)
  · rintro ⟨hsearch, rfl, rfl⟩
    refine .inr ⟨_, tr, [], by rw [List.append_nil], traces_search_iff.2 hsearch, ?_⟩
    exact traces_call.2 (.inl ⟨rfl, rfl⟩)

theorem traces_provision_ofExcept_iff {tr : Trace} {r : Except Failure Unit} :
    Traces (provision i t) tr (.ofExcept r) ↔
      (∃ lookups chart vs, Search i t lookups (.ok (chart, vs)) ∧
        tr = lookups ++ [⟨.install chart i.name i.namespaceName vs, r⟩]) ∨
      ∃ f, Search i t tr (.error f) ∧ r = .error f := by
  rw [provision, traces_bind]
  constructor
  · rintro (⟨halt, hsearch, hr⟩ | ⟨⟨chart, vs⟩, u, v, rfl, hsearch, hcall⟩)
    · cases r with
      | ok => exact absurd hr (by simp)
      | error f =>
          cases hr
          exact .inr ⟨f, traces_search_iff.1 hsearch, rfl⟩
    · rcases traces_call.1 hcall with ⟨rfl, hs⟩ | ⟨a, rfl, hs⟩
      · exact absurd hs (Stand.ofExcept_ne_asks _ _)
      -- the installation is the last call, so its answer is the result
      · have hra : r = a := by
          cases a with
          | ok => exact Stand.ofExcept_eq_ends_iff.1 hs
          | error f => exact Stand.ofExcept_eq_fails_iff.1 hs
        exact .inl ⟨u, chart, vs, traces_search_iff.1 hsearch, by rw [hra]⟩
  · rintro (⟨u, chart, vs, hsearch, rfl⟩ | ⟨f, hsearch, rfl⟩)
    · refine .inr ⟨_, u, _, rfl, traces_search_iff.2 hsearch, ?_⟩
      exact traces_call.2 (.inr ⟨r, rfl, rfl⟩)
    · exact .inl ⟨.fails f, traces_search_iff.2 hsearch, rfl⟩

/-- A chart is installed exactly if the search comes to it, with the values of the instance and
under its name, and then the result is that of the installation. Otherwise the result is what was
missing first. Whatever is answered, it comes to one of the two, and of the failures of a search
those of a repository and a chart that were not found are references to something that does not
exist. -/
theorem installs_declared_chart (i : Instance) (t : Template) :
    (∀ tr chart release space vs,
      Traces (provision i t) tr (.halts (.asks (.install chart release space vs))) ↔
        Search i t tr (.ok (chart, vs)) ∧ release = i.name ∧ space = i.namespaceName) ∧
    (∀ tr (r : Except Failure Unit), Traces (provision i t) tr (.ofExcept r) ↔
      (∃ lookups chart vs, Search i t lookups (.ok (chart, vs)) ∧
        tr = lookups ++ [⟨.install chart i.name i.namespaceName vs, r⟩]) ∨
      ∃ f, Search i t tr (.error f) ∧ r = .error f) ∧
    (∀ answer : (c : Call) → Except Failure c.Result, ∃ tr r,
      Traces (provision i t) tr (.ofExcept r) ∧ ∀ e ∈ tr, e.answer = answer e.request) ∧
    ∀ installer tr f, IsCarriedOut installer tr → Search i t tr (.error f) →
      (f.isMissingReference = true ↔
        f = .repositoryNotFound t.spec.helmRepository ∨
          f = .chartNotFound t.spec.helmRepository t.spec.helmChart t.spec.helmChartVersion) := by
  refine ⟨?_, ?_, ?_, ?_⟩
  · intro tr chart release space vs
    exact traces_provision_asks_iff
  · intro tr r
    exact traces_provision_ofExcept_iff
  · intro answer
    exact exists_traces (provision i t) answer
  · intro installer tr f hcarried hsearch
    exact isMissingReference_iff_of_search hcarried hsearch

/-! ### A version that is listed twice

The first entry for the version has no URLs, so the second one is not offered. -/

namespace Sample

def seeker : Instance where
  metadata := { name := some "a", namespaceName := some "n" }
  spec := ⟨"t", none⟩
  status := none

def declaring : Template where
  metadata := { name := some "t" }
  spec := ⟨"r", "c", "1", []⟩

def listedRepository : Repository where
  metadata := { name := some "r" }
  url := "http://r/"

/-- The index as it is downloaded. -/
def indexText : String :=
  "entries:\n  c:\n  - version: \"1\"\n  - version: \"1\"\n    urls: [c.tgz]\n"

def doubledIndex : ChartIndex where
  apiVersion := none
  entries := [("c", [⟨"1", []⟩, ⟨"1", ["c.tgz"]⟩])]

/-- The reply that lists the repository. -/
def listing : ApiServer.Reply :=
  ⟨200, (Json.ofPairs [("items", .arr [listedRepository.toJson])]).render⟩

def lookups : Trace :=
  [⟨.listRepositories, .ok [listedRepository]⟩, ⟨.fetchIndex "http://r/", .ok doubledIndex⟩]

theorem search_doubled : Search seeker declaring lookups (.error (.chartNotFound "r" "c" "1")) := by
  have first : IsFirst (·.name = declaring.spec.helmRepository) [listedRepository]
      listedRepository := ⟨rfl, [], [], rfl, by simp⟩
  have none : ∀ reference, ¬ Offers declaring doubledIndex reference := by
    intro reference hoffers
    have hurl : (none : Option String) = some reference := url?_eq_some_iff.2 hoffers
    exact absurd hurl (by simp)
  exact .chartNotFound .nothing first none

/-- The reply says that the repository is the only one, and the text is read as the index. -/
theorem carriedOut_lookups : IsCarriedOut {} lookups := by
  have hread : listing.read (ApiServer.decodeList? Repository.decode?) =
      .ok [listedRepository] := ApiServer.Reply.read_ofList (by decide) (by decide +kernel)
  obtain ⟨r, hr⟩ : ∃ r, ApiServer.Collection.repositories.listRequest none none = .ok r :=
    exists_eq_ok_of_isOk (by decide +kernel)
  have hindex : ChartIndex.read "http://r/" indexText = .ok doubledIndex := by decide +kernel
  -- the list of repositories is exchanged with the server, the index is downloaded
  intro e he
  simp only [lookups, List.mem_cons, List.not_mem_nil, or_false] at he
  rcases he with rfl | rfl
  · refine ⟨[⟨.exchange r, listing⟩], ?_⟩
    exact Operator.ends_resource_iff.2 ⟨r, listing, hr, rfl, hread⟩
  · let loading : Event Operator.outside := ⟨.download "http://r/", .ok indexText⟩
    refine ⟨[loading], traces_bind.2 (.inr ⟨.ok indexText, [loading], [], rfl, ?_, ?_⟩)⟩
    · exact traces_ask.2 (.inr ⟨.ok indexText, rfl, rfl⟩)
    · exact traces_liftExcept.2 ⟨rfl, by rw [hindex]⟩

theorem doubled_version_is_not_found :
    Traces (provision seeker declaring) lookups (.halts (.fails (.chartNotFound "r" "c" "1"))) ∧
      (Failure.chartNotFound "r" "c" "1").isMissingReference = true := by
  obtain ⟨-, hresult, -, hclass⟩ := installs_declared_chart seeker declaring
  constructor
  · exact (hresult lookups (.error _)).2 (.inr ⟨_, search_doubled, rfl⟩)
  · exact (hclass {} lookups _ carriedOut_lookups search_doubled).2 (.inr rfl)

end Sample

end Pass

end ClusterLifecycle
