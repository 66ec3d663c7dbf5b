/-
PhantomDrive/Lib/Runs.lean

Runs of a system that answers every event with one step, and the invariant rule for
them.  A run may be restricted by a condition that every one of its steps meets.

Also the rule for what a fair schedule brings about (`eventually`): in every state one
event helps, it goes on to help until the rank has dropped, and it comes again.
-/
import Mathlib

namespace Runs

variable {σ ε : Type*} (step : σ → ε → σ)

/-- The state after a sequence of events. -/
def run (s : σ) (events : List ε) : σ := events.foldl step s

@[simp] theorem run_nil (s : σ) : run step s [] = s := rfl

@[simp] theorem run_cons (s : σ) (e : ε) (events : List ε) :
    run step s (e :: events) = run step (step s e) events := rfl

theorem run_append (s : σ) (events later : List ε) :
    run step s (events ++ later) = run step (run step s events) later :=
  List.foldl_append

/-- Every step of the run meets `ok`. -/
def Along (ok : σ → ε → Prop) : σ → List ε → Prop
  | _, [] => True
  | s, e :: events => ok s e ∧ Along ok (step s e) events

instance decidableAlong (ok : σ → ε → Prop) [∀ s e, Decidable (ok s e)] :
    ∀ s events, Decidable (Along step ok s events)
  | _, [] => .isTrue trivial
  | s, e :: events => @instDecidableAnd _ _ _ (decidableAlong ok (step s e) events)

variable {step}

/-- What holds at the start and is kept by every step that meets the condition holds at the
end of every run whose steps meet it. -/
theorem invariant {ok : σ → ε → Prop} {P : σ → Prop}
    (hstep : ∀ s e, P s → ok s e → P (step s e)) {s : σ} {events : List ε} (h : P s)
    (hrun : Along step ok s events) : P (run step s events) := by
  induction events generalizing s with
  | nil => exact h
  | cons e events ih => exact ih (hstep s e h hrun.1) hrun.2

/-- The rule without a condition. -/
theorem invariant_of_forall {P : σ → Prop} (hstep : ∀ s e, P s → P (step s e)) {s : σ}
    (h : P s) (events : List ε) : P (run step s events) := by
  induction events generalizing s with
  | nil => exact h
  | cons e events ih => exact ih (hstep s e h)

/-- A condition along a run is a condition along each of its parts. -/
theorem along_append {ok : σ → ε → Prop} {s : σ} {events later : List ε} :
    Along step ok s (events ++ later)
      ↔ Along step ok s events ∧ Along step ok (run step s events) later := by
  induction events generalizing s with
  | nil => simp [Along]
  | cons e events ih => simp [Along, ih, and_assoc]

/-- A condition on the events alone may be met along with another. -/
theorem Along.and_forall {ok : σ → ε → Prop} {Q : ε → Prop} {s : σ} {events : List ε}
    (h : Along step ok s events) (hevents : ∀ e ∈ events, Q e) :
    Along step (fun s e => ok s e ∧ Q e) s events := by
  induction events generalizing s with
  | nil => trivial
  | cons e events ih =>
    exact ⟨⟨h.1, hevents e List.mem_cons_self⟩,
      ih h.2 fun e' hmem => hevents e' (List.mem_cons_of_mem e hmem)⟩

/-- Two systems that see the same events stay related, if every step that meets the condition
keeps them related. -/
theorem lockstep {τ : Type*} {step' : τ → ε → τ} {ok : σ → ε → Prop} {R : σ → τ → Prop}
    (hstep : ∀ s t e, R s t → ok s e → R (step s e) (step' t e)) {s : σ} {t : τ}
    {events : List ε} (h : R s t) (hrun : Along step ok s events) :
    R (run step s events) (run step' t events) := by
  induction events generalizing s t with
  | nil => exact h
  | cons e events ih => exact ih (hstep s t e h hrun.1) hrun.2

/-- What an observer sees of a run: `obs` of every state, the first and the last included. -/
def trace {ο : Type*} (step : σ → ε → σ) (obs : σ → ο) : σ → List ε → List ο
  | s, [] => [obs s]
  | s, e :: events => obs s :: trace step obs (step s e) events

/-- Two systems that stay related look the same to an observer to whom related states do. -/
theorem trace_eq {τ ο : Type*} {step' : τ → ε → τ} {obs : σ → ο} {obs' : τ → ο}
    {ok : σ → ε → Prop} {R : σ → τ → Prop}
    (hstep : ∀ s t e, R s t → ok s e → R (step s e) (step' t e))
    (hobs : ∀ s t, R s t → obs' t = obs s) {s : σ} {t : τ} {events : List ε} (h : R s t)
    (hrun : Along step ok s events) : trace step' obs' t events = trace step obs s events := by
  induction events generalizing s t with
  | nil => exact congrArg (fun o => [o]) (hobs s t h)
  | cons e events ih => exact congrArg₂ _ (hobs s t h) (ih (hstep s t e h hrun.1) hrun.2)

/-! ### Fair schedules -/

/-- The state after the first `k` events of a schedule. -/
def scheduled (step : σ → ε → σ) (s : σ) (schedule : ℕ → ε) (k : ℕ) : σ :=
  run step s ((List.range k).map schedule)

theorem scheduled_succ (s : σ) (schedule : ℕ → ε) (k : ℕ) :
    scheduled step s schedule (k + 1) = step (scheduled step s schedule k) (schedule k) := by
  rw [scheduled, List.range_succ, List.map_append, run_append]
  rfl

/-- Every event comes again and again. -/
def Fair (schedule : ℕ → ε) : Prop := ∀ e k, ∃ j, k ≤ j ∧ schedule j = e

/-- What makes progress certain: in every state that is not done, an event lowers the rank, or it
is not the one that helps and that one goes on to help. -/
structure Progress (step : σ → ε → σ) (P done : σ → Prop) (rank : σ → ℕ) (helpful : σ → ε) :
    Prop where
  keeps : ∀ s e, P s → P (step s e)
  drops : ∀ s e, P s → ¬ done s → rank (step s e) < rank s
    ∨ rank (step s e) = rank s ∧ e ≠ helpful s ∧ helpful (step s e) = helpful s

section Progress

variable {P done : σ → Prop} {rank : σ → ℕ} {helpful : σ → ε}

/-- Up to the event that helps, the rank drops or the system is done. -/
theorem Progress.drops_by (h : Progress step P done rank helpful) (s : σ) (schedule : ℕ → ε)
    {d k : ℕ} (hP : P (scheduled step s schedule k))
    (hhelp : schedule (k + d) = helpful (scheduled step s schedule k)) :
    ∃ j, P (scheduled step s schedule j) ∧ (done (scheduled step s schedule j)
      ∨ rank (scheduled step s schedule j) < rank (scheduled step s schedule k)) := by
  induction d generalizing k with
  | zero =>
    by_cases hdone : done (scheduled step s schedule k)
    · exact ⟨k, hP, Or.inl hdone⟩
    have hnext : scheduled step s schedule (k + 1) = step _ _ := scheduled_succ s schedule k
    rcases h.drops _ (schedule k) hP hdone with hlt | ⟨-, hne, -⟩
    · exact ⟨k + 1, hnext ▸ h.keeps _ _ hP, Or.inr (hnext ▸ hlt)⟩
    · exact absurd hhelp hne
  | succ d ih =>
    by_cases hdone : done (scheduled step s schedule k)
    · exact ⟨k, hP, Or.inl hdone⟩
    have hnext : scheduled step s schedule (k + 1) = step _ _ := scheduled_succ s schedule k
    have hP' : P (scheduled step s schedule (k + 1)) := hnext ▸ h.keeps _ _ hP
    rcases h.drops _ (schedule k) hP hdone with hlt | ⟨heq, -, hsame⟩
    · exact ⟨k + 1, hP', Or.inr (hnext ▸ hlt)⟩
    · have hhelp' : schedule (k + 1 + d) = helpful (scheduled step s schedule (k + 1)) := by
        rw [hnext, hsame, ← hhelp, Nat.add_assoc, Nat.add_comm 1 d]
      obtain ⟨j, hPj, hj⟩ := ih hP' hhelp'
      refine ⟨j, hPj, hj.imp_right fun hlt => ?_⟩
      rwa [hnext, heq] at hlt

/-- **Every fair schedule gets the system done.** -/
theorem Progress.eventually (h : Progress step P done rank helpful) {s : σ} (hs : P s)
    {schedule : ℕ → ε} (hfair : Fair schedule) :
    ∃ k, done (scheduled step s schedule k) := by
  have hall : ∀ r k, rank (scheduled step s schedule k) = r → P (scheduled step s schedule k) →
      ∃ j, done (scheduled step s schedule j) := by
    intro r
    induction r using Nat.strong_induction_on with
    | _ r ih =>
      intro k hr hP
      obtain ⟨j, hkj, hhelp⟩ := hfair (helpful (scheduled step s schedule k)) k
      obtain ⟨d, rfl⟩ := Nat.exists_eq_add_of_le hkj
      obtain ⟨j, hPj, hdone | hlt⟩ := h.drops_by s schedule hP hhelp
      · exact ⟨j, hdone⟩
      · exact ih _ (hr ▸ hlt) j rfl hPj
  exact hall _ 0 rfl hs

end Progress

end Runs
