import Mathlib

/-!
# Labelled machines and what their runs preserve

A machine takes one labelled step at a time.  A label stands for everything the
environment decides about that step: which thread moves, what a call outside the
machine answers, which branch a race takes.  A step that is not enabled is
`none`.

A run is a list of labels.  Two rules carry every invariant of a development
over whole runs:

* `Machine.run_preserves`: what one step preserves, a run preserves;
* `Machine.meets_preserves`: what one step preserves under a side condition on
  the label and the state before it, a run preserves when each of its steps
  meets that condition.
-/

namespace Bbp.Library

universe u v

/-- A machine driven by labels; `none` is a step that is not enabled. -/
structure Machine (σ : Type u) (α : Type v) where
  step : σ → α → Option σ

/-- A step that stands for a fallible operation is one of its successes. -/
theorem eq_ok_of_toOption {ε : Type u} {α : Type v} {x : Except ε α} {a : α}
    (h : x.toOption = some a) : x = .ok a := by
  cases x with
  | error e => exact nomatch h
  | ok b => rw [Option.some.inj h]

namespace Machine

variable {σ : Type u} {α : Type v} (m : Machine σ α)

/-- Take the labels one after the other. -/
def run : σ → List α → Option σ
  | s, [] => some s
  | s, a :: labels =>
    match m.step s a with
    | none => none
    | some t => run t labels

/-- A run that ends with a property that can be computed. -/
theorem run_of_any (s : σ) (labels : List α) (p : σ → Bool) (h : (m.run s labels).any p = true) :
    ∃ t, m.run s labels = some t ∧ p t = true :=
  (Option.any_eq_true p _).mp h

/-- Every label of the run meets `G` at the state in which it is taken. -/
def Meets (G : σ → α → Prop) : σ → List α → Prop
  | _, [] => True
  | s, a :: labels => G s a ∧ ∀ t, m.step s a = some t → Meets G t labels

/-- Whether a run meets a decidable condition can be computed. -/
instance decidableMeets
    (G : σ → α → Prop) [∀ s a, Decidable (G s a)] :
    (s : σ) → (labels : List α) → Decidable (m.Meets G s labels)
  | _, [] => isTrue trivial
  | s, a :: labels =>
    match h : m.step s a with
    | none =>
      decidable_of_iff (G s a)
        ⟨fun hg => ⟨hg, fun t ht => by rw [h] at ht; cases ht⟩, And.left⟩
    | some t =>
      have : Decidable (m.Meets G t labels) := decidableMeets G t labels
      decidable_of_iff (G s a ∧ m.Meets G t labels)
        ⟨fun hg => ⟨hg.1, fun u hu => by rw [h] at hu; cases hu; exact hg.2⟩,
          fun hg => ⟨hg.1, hg.2 t h⟩⟩

@[simp] theorem run_nil (s : σ) : m.run s [] = some s := by
  rfl

variable {labels : List α}

/-- The first step of a run that is not empty. -/
theorem run_cons_iff {s u : σ} {a : α} :
    m.run s (a :: labels) = some u
      ↔
    ∃ t, m.step s a = some t ∧ m.run t labels = some u := by
  cases hstep : m.step s a with
  | none => simp [run, hstep]
  | some t => simp [run, hstep]

theorem run_append_iff {s u : σ} {first second : List α} :
    m.run s (first ++ second) = some u
      ↔
    ∃ t, m.run s first = some t ∧ m.run t second = some u := by
  induction first generalizing s with
  | nil => simp
  | cons a labels ih =>
    simp only [List.cons_append, run_cons_iff, ih]
    constructor
    · rintro ⟨t, hstep, v, hfirst, hsecond⟩
      exact ⟨v, ⟨t, hstep, hfirst⟩, hsecond⟩
    · rintro ⟨v, ⟨t, hstep, hfirst⟩, hsecond⟩
      exact ⟨t, hstep, v, hfirst, hsecond⟩

/-- What every step preserves, every run preserves. -/
theorem run_preserves {I : σ → Prop} (hstep : ∀ s a t, m.step s a = some t → I s → I t) {s t : σ}
    (hrun : m.run s labels = some t) (hs : I s) : I t := by
  induction labels generalizing s with
  | nil =>
    cases hrun
    exact hs
  | cons a labels ih =>
    obtain ⟨v, hfirst, hrest⟩ := m.run_cons_iff.mp hrun
    exact ih hrest (hstep s a v hfirst hs)

variable {G : σ → α → Prop}

/-- What every step under `G` preserves, every run under `G` preserves. -/
theorem meets_preserves {I : σ → Prop} (hstep : ∀ s a t, m.step s a = some t → G s a → I s → I t)
    {s t : σ} (hmeets : m.Meets G s labels) (hrun : m.run s labels = some t) (hs : I s) : I t := by
  induction labels generalizing s with
  | nil =>
    cases hrun
    exact hs
  | cons a labels ih =>
    obtain ⟨v, hfirst, hrest⟩ := m.run_cons_iff.mp hrun
    obtain ⟨hguard, hlater⟩ := hmeets
    exact ih (hlater v hfirst) hrest (hstep s a v hfirst hguard hs)

/-- What every step under `G` keeps, with a count of some of the labels. -/
theorem meets_counts {I : Nat → σ → Prop} (p : α → Bool)
    (hstep : ∀ k s a t, m.step s a = some t → G s a → I k s → I (k + if p a then 1 else 0) t)
    {s t : σ} {k : Nat} (hmeets : m.Meets G s labels) (hrun : m.run s labels = some t)
    (hs : I k s) : I (k + labels.countP p) t := by
  induction labels generalizing s k with
  | nil =>
    cases hrun
    exact hs
  | cons a labels ih =>
    obtain ⟨v, hfirst, hrest⟩ := m.run_cons_iff.mp hrun
    obtain ⟨hguard, hlater⟩ := hmeets
    have hend := ih (hlater v hfirst) hrest (hstep k s a v hfirst hguard hs)
    have hcount : k + (a :: labels).countP p = (k + if p a then 1 else 0) + labels.countP p := by
      rw [List.countP_cons]
      omega
    rw [hcount]
    exact hend

/--
Labels that lower a rank, as long as the goal is not reached, reach it.  Labels that are
not counted may leave the rank as it is.
-/
theorem run_reaches_of_rank (I Goal : σ → Prop) (rank : σ → Nat) (own counted : α → Bool)
    (hstep : ∀ s a t, m.step s a = some t → own a = true → I s → ¬ Goal s →
      Goal t ∨ I t ∧ rank t + (if counted a then 1 else 0) ≤ rank s) {s t : σ}
    (hrun : m.run s labels = some t) (hown : ∀ a ∈ labels, own a = true) (hs : I s)
    (hlong : rank s < labels.countP counted) :
    ∃ before u, before <+: labels ∧ m.run s before = some u ∧ Goal u := by
  induction labels generalizing s with
  | nil => simp at hlong
  | cons a labels ih =>
    by_cases hgoal : Goal s
    · exact ⟨[], s, List.nil_prefix, rfl, hgoal⟩
    obtain ⟨v, hfirst, hrest⟩ := m.run_cons_iff.mp hrun
    rcases hstep s a v hfirst (hown a (by simp)) hs hgoal with hreached | ⟨hv, hrank⟩
    · refine ⟨[a], v, ⟨labels, rfl⟩, ?_, hreached⟩
      exact m.run_cons_iff.mpr ⟨v, hfirst, rfl⟩
    · rw [List.countP_cons] at hlong
      obtain ⟨before, u, hlead, hbefore, hu⟩ :=
        ih hrest (fun b hb => hown b (List.mem_cons_of_mem _ hb)) hv (by omega)
      refine ⟨a :: before, u, ?_, ?_, hu⟩
      · obtain ⟨after, rfl⟩ := hlead
        exact ⟨after, rfl⟩
      · exact m.run_cons_iff.mpr ⟨v, hfirst, hbefore⟩

end Machine

end Bbp.Library
