import ClusterLifecycle.Proofs.Tables
import ClusterLifecycle.Setup.Task

/-!
# Parameters of setup runs

The run for a step gets one parameter from the operator, the secret with the kubeconfig, and further
ones from the step, which may name them as it likes. A run that gives a parameter twice is refused
by whoever executes it.

Main statement: `params_wellFormed_iff` says for which steps no parameter is given twice, and what
becomes of the others.
-/

namespace ClusterLifecycle

namespace Setup

variable {step : SetupStep} {name secret : String}

/-- The parameters with a given name. -/
def paramsNamed (name : String) (params : List PipelineParam) : List PipelineParam :=
  params.filter (·.name == name)

/-- The parameters have different names, the operator's secret is one of them, and each of the other
parameters of the step is there once with its own value. -/
structure WellFormed (step : SetupStep) (secret : String) (params : List PipelineParam) : Prop where
  distinct : (params.map (·.name)).Nodup
  secret : paramsNamed kubeconfigParam params = [⟨kubeconfigParam, .str secret⟩]
  others : ∀ entry ∈ step.params, entry.1 ≠ kubeconfigParam →
    paramsNamed entry.1 params = [⟨entry.1, .str entry.2⟩]

theorem names_params :
    (params step secret).map (·.name) = kubeconfigParam :: step.params.map (·.1) := by
  simp [params, Function.comp_def]

theorem paramsNamed_params : paramsNamed name (params step secret) =
    (if kubeconfigParam = name then [⟨kubeconfigParam, .str secret⟩] else []) ++
      (step.params.named name).map fun entry => ⟨entry.1, .str entry.2⟩ := by
  rw [paramsNamed, params, List.filter_cons, List.filter_map, Table.named]
  by_cases h : kubeconfigParam = name <;> simp [h, Function.comp_def]

theorem paramsNamed_of_ne {entry : String × String} (distinct : step.params.Distinct)
    (h : entry ∈ step.params) (hne : entry.1 ≠ kubeconfigParam) :
    paramsNamed entry.1 (params step secret) = [⟨entry.1, .str entry.2⟩] := by
  rw [paramsNamed_params, if_neg (Ne.symm hne), Table.named_eq_singleton distinct h]
  rfl

/-- The parameter of a step with the name of the operator's stands beside it. -/
theorem paramsNamed_of_reserved {value : String} (distinct : step.params.Distinct)
    (h : (kubeconfigParam, value) ∈ step.params) :
    paramsNamed kubeconfigParam (params step secret) =
      [⟨kubeconfigParam, .str secret⟩, ⟨kubeconfigParam, .str value⟩] := by
  have hnamed : step.params.named kubeconfigParam = [(kubeconfigParam, value)] :=
    Table.named_eq_singleton distinct h
  rw [paramsNamed_params, if_pos rfl, hnamed]
  rfl

theorem wellFormed_of_absent (distinct : step.params.Distinct)
    (h : kubeconfigParam ∉ step.params.map (·.1)) :
    WellFormed step secret (params step secret) where
  distinct := by
    rw [names_params]
    exact List.nodup_cons.2 ⟨h, distinct⟩
  secret := by
    rw [paramsNamed_params, if_pos rfl, Table.named_eq_of_distinct distinct,
      Table.get?_eq_none_iff.2 h]
    rfl
  others _ hentry hne := paramsNamed_of_ne distinct hentry hne

/-- The parameters of the run for a step are well formed exactly if the step does not use the name
of the operator's parameter. If it does, the run gives that parameter twice, first with the
operator's value and then with that of the step. Every other parameter of the step is there once. -/
theorem params_wellFormed_iff (step : SetupStep) (order : Nat) (owner : Identity) (secret : String)
    (distinct : step.params.Distinct) :
    (WellFormed step secret (pipelineRun step order owner secret).spec.params ↔
      kubeconfigParam ∉ step.params.map (·.1)) ∧
    (∀ value, (kubeconfigParam, value) ∈ step.params →
      paramsNamed kubeconfigParam (pipelineRun step order owner secret).spec.params =
        [⟨kubeconfigParam, .str secret⟩, ⟨kubeconfigParam, .str value⟩]) ∧
    ∀ entry ∈ step.params, entry.1 ≠ kubeconfigParam →
      paramsNamed entry.1 (pipelineRun step order owner secret).spec.params =
        [⟨entry.1, .str entry.2⟩] := by
  have hparams : (pipelineRun step order owner secret).spec.params = params step secret := rfl
  rw [hparams]
  refine ⟨⟨fun h => ?_, wellFormed_of_absent distinct⟩,
    fun value h => paramsNamed_of_reserved distinct h,
    fun entry hentry hne => paramsNamed_of_ne distinct hentry hne⟩
  -- the fixed parameter stands in front of those of the step
  have hnames : ((params step secret).map (·.name)).Nodup := h.distinct
  rw [names_params] at hnames
  exact (List.nodup_cons.1 hnames).1

namespace Sample

/-- A step that uses the name of the operator's parameter. -/
def reserving : SetupStep where
  name := "oauth"
  pipeline := "oauth-pipeline"
  params := [("kubeconfigSecret", "mine"), ("realm", "staff")]

def claimant : Identity := ⟨"demo", "clusters", "u1"⟩

theorem reserving_gives_both :
    paramsNamed "kubeconfigSecret" (pipelineRun reserving 0 claimant "theirs").spec.params =
        [⟨"kubeconfigSecret", .str "theirs"⟩, ⟨"kubeconfigSecret", .str "mine"⟩] ∧
      paramsNamed "realm" (pipelineRun reserving 0 claimant "theirs").spec.params =
        [⟨"realm", .str "staff"⟩] := by
  obtain ⟨-, hreserved, hothers⟩ :=
    params_wellFormed_iff reserving 0 claimant "theirs" (by decide)
  exact ⟨hreserved "mine" (by decide), hothers ("realm", "staff") (by decide) (by decide)⟩

end Sample

/-- There is a step whose run gives a parameter twice. -/
theorem reserved_parameter_is_repeated :
    ¬ ∀ (step : SetupStep) (order : Nat) (owner : Identity) (secret : String),
      step.params.Distinct →
        WellFormed step secret (pipelineRun step order owner secret).spec.params := by
  intro h
  have hdistinct := (h Sample.reserving 0 Sample.claimant "theirs" (by decide)).distinct
  exact absurd hdistinct (by decide)

end Setup

end ClusterLifecycle
