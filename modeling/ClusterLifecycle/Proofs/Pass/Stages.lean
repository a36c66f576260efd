import ClusterLifecycle.Proofs.Pass.Trace

/-!
# What the stages of a pass ask for

For every stage the calls that it may make, and what its end says about its trace.

Main statements: `makes_advance` lists the calls that a pass makes behind the gate, and
`flags_of_prepare` says what the status that it writes there records.
-/

namespace ClusterLifecycle.Pass

variable {α β : Type}

/-- A stage may look things up before it comes to its plan. -/
theorem keeps_past_inquiry {x : Pass α} {f : α → Pass β} {Q : List Call → Prop} {t : Trace}
    {s : Stand collaborators Failure β} (hx : Makes (fun c => c.isInquiry = true) x)
    (h : Traces (x >>= f) t s) (hQ : ∃ plan, Q plan)
    (hf : ∀ a t₁ t₂, Traces x t₁ (.ends a) → Traces (f a) t₂ s → ∃ plan, Q plan ∧ Keeps plan t₂ s) :
    ∃ plan, Q plan ∧ Keeps plan t s := by
  rcases traces_bind.1 h with ⟨r, hr, rfl⟩ | ⟨a, t₁, t₂, rfl, h₁, h₂⟩
  · -- nothing was attempted, so any plan will do
    obtain ⟨plan, hplan⟩ := hQ
    exact ⟨plan, hplan, (hx.keeps hr).halted plan⟩
  · obtain ⟨plan, hplan, hkeeps⟩ := hf a t₁ t₂ h₁ h₂
    exact ⟨plan, hplan, (hx.keeps h₁).after hkeeps⟩

/-! ## Installation -/

theorem makes_search (i : Instance) (template : Template) :
    Makes (fun c => c.isSearch = true) (search i template) := by
  refine makes_bind (makes_liftExcept _) fun values => ?_
  refine makes_bind (makes_call rfl) fun repositories => ?_
  refine makes_bind (makes_liftExcept _) fun repository => ?_
  refine makes_bind (makes_call rfl) fun index => ?_
  refine makes_bind (makes_liftExcept _) fun reference => ?_
  exact makes_bind (makes_liftExcept _) fun chart => makes_pure _

theorem inquires_search (i : Instance) (template : Template) :
    Makes (fun c => c.isInquiry = true) (search i template) :=
  (makes_search i template).mono fun _ => Call.isInquiry_of_isSearch

/-- An installation looks a chart up and installs it under the name of the instance. -/
theorem keeps_of_provision {i : Instance} {template : Template} {t : Trace}
    {s : Stand collaborators Failure Unit} (h : Traces (provision i template) t s) :
    ∃ plan, (∃ chart values, plan = [.install chart i.name i.namespaceName values]) ∧
      Keeps plan t s := by
  refine keeps_past_inquiry (inquires_search i template) h ⟨_, "", [], rfl⟩ ?_
  rintro ⟨chart, values⟩ _ _ _ hinstall
  exact ⟨_, ⟨chart, values, rfl⟩, keeps_of_traces_call rfl hinstall⟩

theorem makes_provision (i : Instance) (template : Template) :
    Makes (fun c => c.isSearch = true ∨ ∃ chart values,
      c = .install chart i.name i.namespaceName values) (provision i template) := by
  refine makes_bind ((makes_search i template).mono fun _ => .inl) ?_
  rintro ⟨chart, values⟩
  exact makes_call (.inr ⟨chart, values, rfl⟩)

/-! ## Observation -/

theorem makes_secretText (space name key : String) :
    Makes (fun c => c.isObservation = true) (secretText space name key) := by
  intro t c h
  rcases traces_secretText.1 h with ⟨-, hs⟩ | ⟨a, -, hs⟩
  · cases hs
    rfl
  · exact absurd hs (by simp)

theorem descriptorFrom_cons (space : String) (last : Option Descriptor) (d : Manifest.Document)
    (rest : List Manifest.Document) :
    descriptorFrom space last (d :: rest) =
      call (.extract d space) >>= fun found : Option Descriptor =>
        descriptorFrom space (found.or last) rest := by
  rw [descriptorFrom, List.foldlM_cons, bind_assoc]
  simp only [pure_bind]
  rfl

theorem makes_descriptorFrom (space : String) (last : Option Descriptor)
    (documents : List Manifest.Document) :
    Makes (fun c => c.isObservation = true) (descriptorFrom space last documents) := by
  induction documents generalizing last with
  | nil => exact makes_pure _
  | cons d rest ih =>
      rw [descriptorFrom_cons]
      exact makes_bind (makes_call rfl) fun found => ih _

/-- The descriptor in the end is the one that was found last, so its status is the one that was
observed last. -/
theorem observedStatus?_of_descriptorFrom {space : String} (last : Option Descriptor)
    {found : Option Descriptor} {documents : List Manifest.Document} {t : Trace}
    (h : Traces (descriptorFrom space last documents) t (.ends found)) :
    (observedStatus? t).or (last.map (·.status)) = found.map (·.status) := by
  -- induction on the documents, for every descriptor that may have been found before them
  induction documents generalizing last t with
  | nil =>
      obtain ⟨rfl, hs⟩ := traces_pure.1 h
      cases hs
      rfl
  | cons d rest ih =>
      rw [descriptorFrom_cons] at h
      obtain ⟨next, u, rfl, hu⟩ := ends_call_bind h
      -- the answer to this call is overtaken by any later one
      have hrest : (observedStatus? u).or ((next.or last).map (·.status)) = found.map (·.status) :=
        ih _ hu
      rw [← hrest, observedStatus?_cons]
      cases next <;> simp [Call.observed?]

theorem makes_report (release : Release) (cluster : Option Descriptor) :
    Makes (fun c => c.isObservation = true) (report release cluster) := by
  cases cluster with
  | none => exact makes_pure _
  | some d => exact makes_bind (makes_secretText _ _ _) fun _ =>
      makes_bind (makes_secretText _ _ _) fun _ => makes_pure _

/-- What is reported is the status of the cluster, or of the release if there is none; the secrets
that are read show no status. -/
theorem status_of_report {release : Release} {cluster : Option Descriptor} {o : Observation}
    {t : Trace} (h : Traces (report release cluster) t (.ends o)) :
    observedStatus? t = none ∧ o.status = (cluster.map (·.status)).getD release.status := by
  cases cluster with
  | none =>
      obtain ⟨rfl, hs⟩ := traces_pure.1 h
      cases hs
      exact ⟨rfl, rfl⟩
  | some d =>
      obtain ⟨password, u, v, rfl, hpassword, hv⟩ := h.ends_bind
      obtain ⟨kubeconfig, w, x, rfl, hkubeconfig, hresult⟩ := hv.ends_bind
      obtain ⟨rfl, hs⟩ := traces_pure.1 hresult
      cases hs
      refine ⟨?_, rfl⟩
      rw [List.append_nil, observedStatus?_append, observedStatus?_of_secretText hpassword,
        observedStatus?_of_secretText hkubeconfig]
      rfl

theorem observes_observe (i : Instance) : Makes (fun c => c.isObservation = true) (observe i) := by
  refine makes_bind (makes_call rfl) fun release => ?_
  refine makes_bind (makes_liftExcept _) fun documents => ?_
  exact makes_bind (makes_descriptorFrom _ none documents) (makes_report release)

theorem makes_observe (i : Instance) : Makes (fun c => c.isInquiry = true) (observe i) :=
  (observes_observe i).mono fun _ => Call.isInquiry_of_isObservation

/-- The status in an observation is the one that was observed last. -/
theorem observedStatus?_of_observe {i : Instance} {o : Observation} {t : Trace}
    (h : Traces (observe i) t (.ends o)) : observedStatus? t = some o.status := by
  obtain ⟨release, u, rfl, hu⟩ := ends_call_bind h
  obtain ⟨documents, -, hv⟩ := ends_check_bind hu
  obtain ⟨found, v, w, rfl, hdescriptor, hreport⟩ := hv.ends_bind
  have hfound : (observedStatus? v).or none = found.map (·.status) :=
    observedStatus?_of_descriptorFrom none hdescriptor
  rw [Option.or_none] at hfound
  obtain ⟨hunseen, hstatus⟩ := status_of_report hreport
  have hrelease : observedStatus? (⟨.getRelease i.name i.namespaceName, .ok release⟩ :: (v ++ w)) =
      ((observedStatus? w).or (observedStatus? v)).or (some release.status) := by
    rw [observedStatus?_cons, observedStatus?_append]
    rfl
  rw [hrelease, hunseen, hfound, hstatus, Option.none_or]
  cases found <;> rfl

/-! ## Setup -/

theorem makes_setUp (i : Instance) (template : Template) (secret : String)
    (status : InstanceStatus) :
    Makes (fun c => c = .listTasks (Setup.selector i.name) i.namespaceName ∨
      c = .createTasks template (identity i) secret) (setUp i template secret status) := by
  unfold setUp
  cases Setup.State.of status with
  | awaitingStart =>
      exact makes_bind (makes_call (.inr rfl)) fun _ => makes_pure _
  | polling =>
      exact makes_bind (makes_call (.inl rfl)) fun _ => makes_pure _
  | notReady => exact makes_pure _
  | complete => exact makes_pure _

/-- The setup is started if and only if it is due. -/
theorem keeps_of_setUp {i : Instance} {template : Template} {secret : String}
    {status : InstanceStatus} {t : Trace}
    {s : Stand collaborators Failure (InstanceStatus × Bool)}
    (h : Traces (setUp i template secret status) t s) :
    Keeps (if Setup.State.of status = .awaitingStart then
      [.createTasks template (identity i) secret] else []) t s := by
  unfold setUp at h
  cases hstate : Setup.State.of status with
  | awaitingStart =>
      rw [hstate] at h
      -- the tasks are being created, or they are and the status is told so
      rcases traces_bind.1 h with ⟨r, hr, rfl⟩ | ⟨a, t₁, t₂, rfl, h₁, h₂⟩
      · exact (keeps_of_traces_call rfl hr).halted []
      · exact (keeps_of_traces_call rfl h₁).after ((makes_pure _).keeps h₂)
  | polling =>
      rw [hstate] at h
      refine Makes.keeps ?_ h
      exact makes_bind (makes_call rfl) fun _ => makes_pure _
  | notReady =>
      rw [hstate] at h
      exact (makes_pure _).keeps h
  | complete =>
      rw [hstate] at h
      exact (makes_pure _).keeps h

/-- The setup keeps what is recorded: that the chart was installed, and that the tasks were
created. -/
theorem flags_of_setUp {i : Instance} {template : Template} {secret : String}
    {before after : InstanceStatus} {polls : Bool} {t : Trace}
    (h : Traces (setUp i template secret before) t (.ends (after, polls))) :
    after.created = before.created ∧
      (before.clusterSetupStarted = true → after.clusterSetupStarted = true) := by
  -- no state of the setup touches the first flag, and none takes the second one back
  unfold setUp at h
  cases hstate : Setup.State.of before with
  | awaitingStart =>
      rw [hstate] at h
      obtain ⟨_, u, rfl, hu⟩ := ends_call_bind h
      cases (traces_pure.1 hu).2
      exact ⟨rfl, fun _ => rfl⟩
  | polling =>
      rw [hstate] at h
      obtain ⟨tasks, u, rfl, hu⟩ := ends_call_bind h
      cases (traces_pure.1 hu).2
      exact ⟨rfl, id⟩
  | notReady =>
      rw [hstate] at h
      cases (traces_pure.1 h).2
      exact ⟨rfl, id⟩
  | complete =>
      rw [hstate] at h
      cases (traces_pure.1 h).2
      exact ⟨rfl, id⟩

/-! ## Behind the gate -/

/-- The calls that a pass may make behind the gate before it writes the status. -/
inductive Preparatory (i : Instance) : Call → Prop where
  /-- Something is looked up. -/
  | inquiry {c : Call} (h : c.isInquiry = true) : Preparatory i c
  /-- The chart is installed under the name of the instance. -/
  | install (chart : String) (values : Table Json) :
      Preparatory i (.install chart i.name i.namespaceName values)
  /-- The setup is started. -/
  | createTasks (template : Template) (secret : String) :
      Preparatory i (.createTasks template (identity i) secret)

/-- The calls that a pass may make behind the gate. -/
inductive Forward (i : Instance) : Call → Prop where
  /-- The status is not written yet. -/
  | prepare {c : Call} (h : Preparatory i c) : Forward i c
  /-- The status is written; it records the installation and forgets no start of the setup. -/
  | updateStatus {status : InstanceStatus} (created : status.created = true)
      (started : i.currentStatus.clusterSetupStarted = true → status.clusterSetupStarted = true) :
      Forward i (.updateStatus { i with status := some status })

theorem makes_provisionOnce (i : Instance) (template : Template) :
    Makes (Preparatory i) (provisionOnce i template) := by
  unfold provisionOnce
  split
  · exact makes_pure _
  · refine (makes_provision i template).mono ?_
    rintro c (h | ⟨chart, values, rfl⟩)
    · exact .inquiry (Call.isInquiry_of_isSearch h)
    · exact .install chart values

theorem makes_assess (i : Instance) (template : Template) :
    Makes (Preparatory i) (assess i template) := by
  refine makes_bind ((makes_observe i).mono fun c => .inquiry) fun observation => ?_
  refine (makes_setUp i template _ _).mono ?_
  rintro c (rfl | rfl)
  · exact .inquiry rfl
  · exact .createTasks _ _

theorem makes_prepare (i : Instance) : Makes (Preparatory i) (prepare i) := by
  refine makes_bind (makes_call (.inquiry rfl)) fun found => ?_
  refine makes_bind (makes_liftExcept _) fun template => ?_
  exact makes_bind (makes_provisionOnce i template) fun _ => makes_assess i template

theorem flags_of_assess {i : Instance} {template : Template} {result : InstanceStatus × Bool}
    {t : Trace} (h : Traces (assess i template) t (.ends result)) :
    result.1.created = true ∧
      (i.currentStatus.clusterSetupStarted = true → result.1.clusterSetupStarted = true) := by
  -- an observation takes the second flag over and sets the first one
  obtain ⟨observation, t₁, t₂, rfl, -, hsetup⟩ := h.ends_bind
  exact flags_of_setUp hsetup

theorem flags_of_prepare {i : Instance} {result : InstanceStatus × Bool} {t : Trace}
    (h : Traces (prepare i) t (.ends result)) :
    result.1.created = true ∧
      (i.currentStatus.clusterSetupStarted = true → result.1.clusterSetupStarted = true) := by
  obtain ⟨found, u, rfl, hu⟩ := ends_call_bind h
  obtain ⟨template, -, hv⟩ := ends_check_bind hu
  obtain ⟨_, v, w, rfl, -, hassess⟩ := hv.ends_bind
  exact flags_of_assess hassess

theorem makes_advance (i : Instance) : Makes (Forward i) (advance i) := by
  -- which status is written depends on how the preparation has ended
  refine makes_bind_of_ends ((makes_prepare i).mono fun c => .prepare) fun result t h => ?_
  obtain ⟨hcreated, hstarted⟩ := flags_of_prepare h
  refine makes_bind (makes_bind ?_ fun _ => makes_pure _) fun _ => makes_pure _
  exact makes_call (.updateStatus hcreated hstarted)

end ClusterLifecycle.Pass
