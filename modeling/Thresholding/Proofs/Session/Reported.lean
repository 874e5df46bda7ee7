import Thresholding.Evaluation.Kernel
import Thresholding.Proofs.Evaluation.Sequence
import Thresholding.Proofs.Graph.Adding
import Thresholding.Proofs.Session.Basic
import Thresholding.Proofs.Typing.Reports

/-!
# Thresholding.Proofs.Session.Reported

**Calls that a pass reports, and whether they are evaluated.**

A pass writes no type on a call that it reports, and takes none away. So a call that no pass has
found a type for has none, and evaluating it fails before the backend hears of it
(`withheld_of_reported`). But a call that an earlier pass has found a type for keeps it when a later
pass, with a stricter configuration or another registry, reports the call, and then the call is
evaluated (`evaluates_reported`).
-/

namespace Thresholding

namespace Graph

variable {g : Graph} {id : NodeId}

/-- A name whose values no backend is asked for. -/
structure Withheld (g : Graph) (id : NodeId) : Prop where
  /-- Evaluating the name fails. -/
  fails : ∀ {σ : Type} (backend : Backend σ) (feeds : Feeds) (s : σ),
    ∃ e, (g.evaluate backend feeds id s).1 = .error e
  /-- What the backend is asked on the way is what it is asked for other names: it is left in the
  state in which evaluating those leaves it. -/
  asksForOthers : ∀ {σ : Type} (backend : Backend σ) (feeds : Feeds) (s : σ),
    ∃ others, g.order [id] = others ++ [id] ∧ id ∉ others ∧
      (g.evaluate backend feeds id s).2 = (g.evaluateAll backend feeds others [] s).2

/-- A name without a tensor type ends the evaluation without asking the backend. -/
theorem evaluateNode_of_not_tensor {σ : Type} (h : ∀ t, g.typeOf id ≠ .tensor t)
    (backend : Backend σ) (feeds : Feeds) (buffers : Buffers) (s : σ) :
    ∃ e, g.evaluateNode backend feeds buffers id s = (.error e, s) := by
  cases htyped : g.typedNode id with
  | error e => exact ⟨e, by rw [evaluateNode, htyped]⟩
  | ok found =>
      obtain ⟨hnode, htype⟩ := typedNode_eq_ok_iff.1 htyped
      exact absurd ((typeOf_eq hnode).trans htype) (h _)

/-- Evaluating it is evaluating what stands before it, and failing. -/
theorem evaluate_of_not_tensor {σ : Type} (h : ∀ t, g.typeOf id ≠ .tensor t)
    {others : List NodeId} (horder : g.order [id] = others ++ [id]) (backend : Backend σ)
    (feeds : Feeds) (s : σ) :
    ∃ e, g.evaluate backend feeds id s = (.error e, (g.evaluateAll backend feeds others [] s).2) := by
  rcases hrun : g.evaluateAll backend feeds others [] s with ⟨e | buffers, s₁⟩
  · refine ⟨e, evaluate_of_error ?_⟩
    rw [horder]
    exact evaluateAll_append_of_error hrun
  · obtain ⟨e, hnode⟩ := evaluateNode_of_not_tensor h backend feeds buffers s₁
    refine ⟨e, evaluate_of_error ?_⟩
    rw [horder, evaluateAll_append_of_ok hrun, evaluateAll_cons_of_error hnode]

theorem withheld_of_not_tensor (h : ∀ t, g.typeOf id ≠ .tensor t) : g.Withheld id := by
  obtain ⟨others, horder, hothers, -⟩ := g.exists_order_eq id
  constructor
  case fails =>
    intro σ backend feeds s
    obtain ⟨e, he⟩ := evaluate_of_not_tensor h horder backend feeds s
    exact ⟨e, by rw [he]⟩
  case asksForOthers =>
    intro σ backend feeds s
    obtain ⟨e, he⟩ := evaluate_of_not_tensor h horder backend feeds s
    exact ⟨others, horder, hothers, by rw [he]⟩

end Graph

namespace Session

open Thresholding.Graph

/-- One of the passes among some steps finds a type for a name. -/
def ResolvedIn (s : Session) (steps : List Step) (id : NodeId) : Prop :=
  ∃ earlier registry config rest, steps = earlier ++ .check registry config :: rest ∧
    Resolves registry config (s.run earlier).log (s.run earlier).graph id

theorem resolvedIn_concat {s : Session} {steps : List Step} {step : Step} {id : NodeId} :
    s.ResolvedIn (steps ++ [step]) id ↔ s.ResolvedIn steps id ∨
      ∃ registry config, step = .check registry config ∧
        Resolves registry config (s.run steps).log (s.run steps).graph id := by
  constructor
  · intro h
    obtain ⟨earlier, registry, config, rest, heq, hresolves⟩ := h
    rcases List.eq_nil_or_concat rest with rfl | ⟨rest, last, rfl⟩
    · obtain ⟨rfl, hstep⟩ := List.append_inj' heq rfl
      cases hstep
      exact Or.inr ⟨registry, config, rfl, hresolves⟩
    · rw [List.concat_eq_append, ← List.cons_append, ← List.append_assoc] at heq
      obtain ⟨rfl, -⟩ := List.append_inj' heq rfl
      exact Or.inl ⟨earlier, registry, config, rest, rfl, hresolves⟩
  · intro h
    rcases h with ⟨earlier, registry, config, rest, rfl, hresolves⟩ | ⟨registry, config, rfl, h⟩
    · exact ⟨earlier, registry, config, rest ++ [step], by simp, hresolves⟩
    · exact ⟨steps, registry, config, [], rfl, h⟩

theorem not_resolvedIn {s : Session} {steps : List Step} {id : NodeId}
    (h : ∀ step ∈ steps, step.isCheck = false) : ¬ s.ResolvedIn steps id := by
  intro hresolved
  obtain ⟨earlier, registry, config, rest, rfl, -⟩ := hresolved
  exact absurd (h (.check registry config) (by simp)) (by simp [Step.isCheck])

/-- **A call that no pass has found a type for has none**, whatever the passes were. -/
theorem typeOf_run_of_not_resolvedIn {steps : List Step} (hsteps : ∀ step ∈ steps, step.LeavesTypes)
    {id : NodeId} (hid : id ∈ (run {} steps).graph.calls) (hnever : ¬ ResolvedIn {} steps id) :
    (run {} steps).graph.typeOf id = .incomplete := by
  -- from the end, so that the steps before a pass are the session that it was run in
  induction steps using List.reverseRecOn with
  | nil => exact absurd hid (by simp [Graph.calls])
  | append_singleton steps step ih =>
      obtain ⟨hbefore, hstep⟩ := List.forall_mem_append.1 hsteps
      obtain ⟨hnever', hkept⟩ := not_or.1 (mt resolvedIn_concat.2 hnever)
      rw [run_concat] at hid ⊢
      rcases Step.apply_cases (hstep step List.mem_cons_self) with
        ⟨registry, config, rfl⟩ | ⟨-, hnothing | ⟨node, -, htype, hadded⟩⟩
      · have hid' : id ∈ (run {} steps).graph.calls := retypes_typeCheck.calls_eq ▸ hid
        have hunresolved : ¬ Resolves registry config (run {} steps).log (run {} steps).graph id :=
          fun h => hkept ⟨registry, config, rfl, h⟩
        exact (typeOf_typeCheck_of_not_resolves hid' hunresolved).trans (ih hbefore hid' hnever')
      · rw [hnothing] at hid ⊢
        exact ih hbefore hid hnever'
      · rw [hadded] at hid ⊢
        rcases mem_calls_add.1 hid with ⟨hne, hid⟩ | ⟨rfl, hcall⟩
        · exact (typeOf_add_of_ne hne).trans (ih hbefore hid hnever')
        · exact (typeOf_eq (node?_add_self _ node)).trans (htype hcall)

/-- **A call that the last pass reports and no earlier pass has resolved is not evaluated.** The
passes may have any registries and configurations. -/
theorem withheld_of_reported {steps : List Step} (hsteps : ∀ step ∈ steps, step.LeavesTypes)
    {registry : Registry} {config : Config} {id : NodeId}
    (hreported : Reported registry config (run {} steps).log (run {} steps).graph id)
    (hnever : ¬ ResolvedIn {} steps id) :
    (run {} (steps ++ [.check registry config])).graph.Withheld id := by
  have hid := (reported_iff_found.1 hreported).1
  have htype : (run {} (steps ++ [.check registry config])).graph.typeOf id = .incomplete := by
    rw [run_concat]
    exact (typeOf_typeCheck_of_not_resolves hid hreported.not_resolves).trans
      (typeOf_run_of_not_resolvedIn hsteps hid hnever)
  apply withheld_of_not_tensor
  intro t ht
  rw [htype] at ht
  exact absurd ht (by simp)

/-- A call onto a domain without bits. -/
def narrowCall : List Step := [
  .addVar "x" (.tensor ⟨⟨[1, 2]⟩, .float32⟩),
  .addConstant [.zero] (.tensor ⟨⟨[1, 1]⟩, .float32⟩),
  .addCall (.multiThreshold ⟨"UINT0", .zero⟩) [0, 1]]

/-- A first pass refuses the call, and so does a second one that is stricter still. -/
theorem withheld_of_reported_narrowCall :
    (∀ step ∈ narrowCall ++ [.check .builtin {}], step.LeavesTypes) ∧
      Reported .builtin ⟨.anchored, false⟩ (run {} (narrowCall ++ [.check .builtin {}])).log
        (run {} (narrowCall ++ [.check .builtin {}])).graph 2 ∧
      ¬ ResolvedIn {} (narrowCall ++ [.check .builtin {}]) 2 ∧
      (run {} (narrowCall ++ [.check .builtin {}] ++
        [.check .builtin ⟨.anchored, false⟩])).graph.Withheld 2 := by
  have hsteps : ∀ step ∈ narrowCall ++ [.check .builtin {}], step.LeavesTypes := by
    simp [narrowCall, Step.LeavesTypes]
  have hreported : Reported .builtin ⟨.anchored, false⟩
      (run {} (narrowCall ++ [.check .builtin {}])).log
      (run {} (narrowCall ++ [.check .builtin {}])).graph 2 := by decide +kernel
  have hfirst : Reported .builtin {} (run {} narrowCall).log (run {} narrowCall).graph 2 := by
    decide +kernel
  have hnever : ¬ ResolvedIn {} (narrowCall ++ [.check .builtin {}]) 2 := by
    rw [resolvedIn_concat, not_or]
    refine ⟨not_resolvedIn (by simp [narrowCall, Step.isCheck]), ?_⟩
    intro h
    obtain ⟨registry, config, heq, hresolves⟩ := h
    cases heq
    exact hfirst.not_resolves hresolves
  exact ⟨hsteps, hreported, hnever, withheld_of_reported hsteps hreported hnever⟩

/-- **A call that was typed before is evaluated also when it is reported.** A pass that allows
domains without bits types the call, and the next one, which does not, reports it. Then the
backend is asked for its values and answers. -/
theorem evaluates_reported :
    (∀ step ∈ narrowCall ++ [.check .builtin ⟨.substring, true⟩], step.LeavesTypes) ∧
      Reported .builtin {} (run {} (narrowCall ++ [.check .builtin ⟨.substring, true⟩])).log
        (run {} (narrowCall ++ [.check .builtin ⟨.substring, true⟩])).graph 2 ∧
      (run {} (narrowCall ++ [.check .builtin ⟨.substring, true⟩] ++
        [.check .builtin {}])).graph.evaluate (.recording .reference)
          (.ofList [(0, [.ofInt .binary32 (-1), .zero])]) 2 ([], ()) =
        (.ok [.zero, .ofNat .binary32 1],
          [{ op := .multiThreshold ⟨"UINT0", .zero⟩
             operands := [⟨[.ofInt .binary32 (-1), .zero], ⟨[1, 2]⟩, .float32⟩,
               ⟨[.zero], ⟨[1, 1]⟩, .float32⟩]
             result := ⟨⟨[1, 2]⟩, .float32⟩ }], ()) := by
  have hsteps : ∀ step ∈ narrowCall ++ [.check .builtin ⟨.substring, true⟩], step.LeavesTypes := by
    simp [narrowCall, Step.LeavesTypes]
  refine ⟨hsteps, ?_, ?_⟩
  · decide +kernel
  · decide +kernel

end Session

end Thresholding
