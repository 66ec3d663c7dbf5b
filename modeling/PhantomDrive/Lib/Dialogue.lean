/-
PhantomDrive/Lib/Dialogue.lean

Programs that talk to a partner: they put requests, each with its own type of reply, and
go on by what they are answered.  The partner is code that cannot be read, or hardware.

`Reaches` is what a conversation has come to, the program that hangs on a reply
included.  `wp` is the condition under which, with a partner of which only a relation is
known, every request put is in order and every result meets a postcondition.  It is
computed along the program (`wp_bind`), and says both of every conversation (`wp_legal`,
`wp_result`); with a partner that replies to what is in order, a conversation also comes
to its end (`wp_ends`).
-/
import Mathlib

namespace Dialogue

variable {Q : Type} {R : Q → Type} {α β σ : Type}

/-! ### Programs -/

/-- A program that ends in an `α`, or asks and goes on by the reply. -/
inductive Prog (Q : Type) (R : Q → Type) (α : Type)
  | done (a : α)
  | ask (q : Q) (next : R q → Prog Q R α)

namespace Prog

/-- One program behind the other. -/
def bind : Prog Q R α → (α → Prog Q R β) → Prog Q R β
  | done a, f => f a
  | ask q next, f => ask q fun r => (next r).bind f

instance : Monad (Prog Q R) where
  pure := done
  bind := bind

/-- One request, and its reply. -/
def request (q : Q) : Prog Q R (R q) := ask q done

@[simp] theorem pure_eq (a : α) : (pure a : Prog Q R α) = done a := rfl

@[simp] theorem done_bind (a : α) (f : α → Prog Q R β) : (done a >>= f) = f a := rfl

@[simp] theorem ask_bind (q : Q) (next : R q → Prog Q R α) (f : α → Prog Q R β) :
    (ask q next >>= f) = ask q fun r => next r >>= f := rfl

@[simp] theorem request_bind (q : Q) (f : R q → Prog Q R β) : (request q >>= f) = ask q f := rfl

end Prog

/-! ### Conversations -/

/-- A request with its reply. -/
abbrev Exchange (Q : Type) (R : Q → Type) : Type := (q : Q) × R q

/-- The conversation `t` brings the program `p` to what is left of it. -/
inductive Reaches : Prog Q R α → List (Exchange Q R) → Prog Q R α → Prop
  | refl (p : Prog Q R α) : Reaches p [] p
  | ask {q : Q} {next : R q → Prog Q R α} {r : R q} {t : List (Exchange Q R)} {p : Prog Q R α}
      (h : Reaches (next r) t p) : Reaches (.ask q next) (⟨q, r⟩ :: t) p

/-! ### Partners -/

/-- What is known of a partner: which requests are in order in a state, and how a request may be
answered there and what state that leaves. -/
structure Partner (Q : Type) (R : Q → Type) (σ : Type) where
  legal : σ → Q → Prop
  answers : σ → (q : Q) → R q → σ → Prop

variable (E : Partner Q R σ)

/-- The states a conversation goes through. -/
inductive Partner.Conversation : σ → List (Exchange Q R) → σ → Prop
  | nil (s : σ) : Conversation s [] s
  | cons {s s' s'' : σ} {q : Q} {r : R q} {t : List (Exchange Q R)}
      (h : E.answers s q r s') (rest : Conversation s' t s'') : Conversation s (⟨q, r⟩ :: t) s''

/-- Every request of the program is in order and every result meets `P`, whatever the partner
answers. -/
def Prog.wp : Prog Q R α → (α → σ → Prop) → σ → Prop
  | .done a, P, s => P a s
  | .ask q next, P, s => E.legal s q ∧ ∀ r s', E.answers s q r s' → (next r).wp P s'

variable {E}

@[simp] theorem wp_done (a : α) (P : α → σ → Prop) (s : σ) : (Prog.done a).wp E P s = P a s := rfl

theorem wp_ask (q : Q) (next : R q → Prog Q R α) (P : α → σ → Prop) (s : σ) :
    (Prog.ask q next).wp E P s
      ↔ E.legal s q ∧ ∀ r s', E.answers s q r s' → (next r).wp E P s' := Iff.rfl

/-- **The rule for one program behind the other.** -/
theorem wp_bind (p : Prog Q R α) (f : α → Prog Q R β) (P : β → σ → Prop) (s : σ) :
    (p >>= f).wp E P s ↔ p.wp E (fun a s' => (f a).wp E P s') s := by
  induction p generalizing s with
  | done a => rfl
  | ask q next ih =>
    rw [Prog.ask_bind, wp_ask, wp_ask]
    refine and_congr_right fun _ => forall_congr' fun r => forall_congr' fun s' => ?_
    exact imp_congr_right fun _ => ih r s'

/-- The postcondition may be weakened. -/
theorem wp_mono {p : Prog Q R α} {P P' : α → σ → Prop} {s : σ} (h : p.wp E P s)
    (himp : ∀ a s', P a s' → P' a s') : p.wp E P' s := by
  induction p generalizing s with
  | done a => exact himp a s h
  | ask q next ih => exact ⟨h.1, fun r s' hr => ih r (h.2 r s' hr)⟩

/-- The rule for a request and what is done with its reply. -/
theorem wp_request {q : Q} {k : R q → Prog Q R α} {P : α → σ → Prop} {s : σ} (hlegal : E.legal s q)
    (h : ∀ r s', E.answers s q r s' → (k r).wp E P s') : (Prog.request q >>= k).wp E P s :=
  ⟨hlegal, h⟩

/-! ### What `wp` says of conversations -/

/-- What is left of a program meets its condition in the state reached. -/
theorem wp_reaches {p p' : Prog Q R α} {P : α → σ → Prop} {s s' : σ} {t : List (Exchange Q R)}
    (h : p.wp E P s) (hreach : Reaches p t p') (hconv : E.Conversation s t s') :
    p'.wp E P s' := by
  induction hreach generalizing s with
  | refl p =>
    cases hconv
    exact h
  | ask _ ih =>
    obtain - | ⟨hanswer, hrest⟩ := hconv
    exact ih (h.2 _ _ hanswer) hrest

/-- **Every request put is in order.** -/
theorem wp_legal {p : Prog Q R α} {P : α → σ → Prop} {s s' : σ} {t : List (Exchange Q R)} {q : Q}
    {next : R q → Prog Q R α} (h : p.wp E P s) (hreach : Reaches p t (.ask q next))
    (hconv : E.Conversation s t s') : E.legal s' q :=
  (wp_reaches h hreach hconv).1

/-- **Every result meets the postcondition.** -/
theorem wp_result {p : Prog Q R α} {P : α → σ → Prop} {s s' : σ} {t : List (Exchange Q R)} {a : α}
    (h : p.wp E P s) (hreach : Reaches p t (.done a)) (hconv : E.Conversation s t s') : P a s' :=
  wp_reaches h hreach hconv

/-- **A program comes to its end** with a partner that replies to every request in order. -/
theorem wp_ends (hreplies : ∀ s q, E.legal s q → ∃ r s', E.answers s q r s') {p : Prog Q R α}
    {P : α → σ → Prop} {s : σ} (h : p.wp E P s) :
    ∃ t a s', Reaches p t (.done a) ∧ E.Conversation s t s' := by
  induction p generalizing s with
  | done a => exact ⟨[], a, s, .refl _, .nil s⟩
  | ask q next ih =>
    obtain ⟨r, s', hanswer⟩ := hreplies s q h.1
    obtain ⟨t, a, s'', hreach, hconv⟩ := ih r (h.2 r s' hanswer)
    exact ⟨⟨q, r⟩ :: t, a, s'', .ask hreach, .cons hanswer hconv⟩

/-! ### Observers -/

/-- An observer that follows the conversation and takes every reply. -/
def observer (next : σ → Exchange Q R → σ) (legal : σ → Q → Prop) : Partner Q R σ where
  legal := legal
  answers s q r s' := s' = next s ⟨q, r⟩

/-- An observer follows every conversation. -/
theorem observer_conversation (next : σ → Exchange Q R → σ) (legal : σ → Q → Prop) (s : σ)
    (t : List (Exchange Q R)) :
    (observer next legal).Conversation s t (t.foldl next s) := by
  induction t generalizing s with
  | nil => exact .nil s
  | cons x t ih => exact .cons rfl (ih _)

/-- The rule for a request before an observer. -/
theorem wp_observer_ask {next : σ → Exchange Q R → σ} {legal : σ → Q → Prop} {q : Q}
    {k : R q → Prog Q R α} {P : α → σ → Prop} {s : σ} :
    (Prog.ask q k).wp (observer next legal) P s
      ↔ legal s q ∧ ∀ r, (k r).wp (observer next legal) P (next s ⟨q, r⟩) :=
  and_congr_right fun _ => forall_congr' fun _ => forall_eq

/-- The rule for a request before an observer, and what is done with its reply. -/
theorem wp_observer_request {next : σ → Exchange Q R → σ} {legal : σ → Q → Prop} {q : Q}
    {k : R q → Prog Q R α} {P : α → σ → Prop} {s : σ} :
    (Prog.request q >>= k).wp (observer next legal) P s
      ↔ legal s q ∧ ∀ r, (k r).wp (observer next legal) P (next s ⟨q, r⟩) :=
  wp_observer_ask

end Dialogue
