/- Programs that can be stopped between any two operations, and their rely rules. -/

import Mathlib.Data.Set.Insert
import Mathlib.Logic.Relation

namespace QuotaScheduler.Lib.Resumable

open Relation (ReflTransGen)

variable {Op : Type} {Ans : Op → Type} {ε α β χ σ : Type}

/-- A computation that has returned, has failed, or waits for the answer of an operation. -/
inductive Prog (Op : Type) (Ans : Op → Type) (ε α : Type) : Type
  | done (a : α)
  | raise (e : ε)
  | call (op : Op) (k : Ans op → Prog Op Ans ε α)

namespace Prog

def bind : Prog Op Ans ε α → (α → Prog Op Ans ε β) → Prog Op Ans ε β
  | done a, f => f a
  | raise e, _ => raise e
  | call op k, f => call op fun r => (k r).bind f

instance : Monad (Prog Op Ans ε) where
  pure := done
  bind := bind

def attempt : Prog Op Ans ε α → Prog Op Ans ε (Except ε α)
  | done a => done (.ok a)
  | raise e => done (.error e)
  | call op k => call op fun r => (k r).attempt

/-- One operation, answered under the choice `c` of the surroundings; an ended computation stays. -/
def advance (exec : (op : Op) → χ → σ → Ans op × σ) : Prog Op Ans ε α → χ → σ → Prog Op Ans ε α × σ
  | call op k, c, s => (k (exec op c s).1, (exec op c s).2)
  | p, _, s => (p, s)

def run (exec : (op : Op) → χ → σ → Ans op × σ) (p : Prog Op Ans ε α) (cs : List χ) (s : σ) :
    Prog Op Ans ε α × σ :=
  cs.foldl (fun x c => x.1.advance exec c x.2) (p, s)

/-- Whatever its operations answer, the computation can only return, and with `Q`. -/
def Always (Q : α → Prop) : Prog Op Ans ε α → Prop
  | done a => Q a
  | raise _ => False
  | call _ k => ∀ r, (k r).Always Q

variable {p : Prog Op Ans ε α}

theorem Always.mono {Q Q' : α → Prop} (h : p.Always Q) (hQ : ∀ a, Q a → Q' a) : p.Always Q' := by
  induction p with
  | done a => exact hQ a h
  | raise e => exact h
  | call op k ih => exact fun r => ih r (h r)

theorem Always.bind {f : α → Prog Op Ans ε β} {Q : α → Prop} {Q' : β → Prop} (h : p.Always Q)
    (hf : ∀ a, Q a → (f a).Always Q') : (p >>= f).Always Q' := by
  induction p with
  | done a => exact hf a h
  | raise e => exact h.elim
  | call op k ih => exact fun r => ih r (h r)

theorem Always.advance {Q : α → Prop} (h : p.Always Q) (exec : (op : Op) → χ → σ → Ans op × σ)
    (c : χ) (s : σ) : (p.advance exec c s).1.Always Q := by
  cases p with
  | done a | raise e => exact h
  | call op k => exact h _

theorem always_attempt (p : Prog Op Ans ε α) : p.attempt.Always fun _ => True := by
  induction p with
  | done a | raise e => trivial
  | call op k ih => exact ih

/-- Two computations with the same operations and related results on the same answers. -/
inductive Lockstep (R : α → β → Prop) : Prog Op Ans ε α → Prog Op Ans ε β → Prop
  | done {a : α} {b : β} (h : R a b) : Lockstep R (done a) (done b)
  | raise (e : ε) : Lockstep R (raise e) (raise e)
  | call (op : Op) {k : Ans op → Prog Op Ans ε α} {k' : Ans op → Prog Op Ans ε β}
      (h : ∀ r, Lockstep R (k r) (k' r)) : Lockstep R (call op k) (call op k')

variable {R : α → β → Prop} {q : Prog Op Ans ε β}

theorem Lockstep.call_of_eq {op op' : Op} (h : op = op') {k : Ans op → Prog Op Ans ε α}
    {k' : Ans op' → Prog Op Ans ε β} (hk : ∀ r, Lockstep R (k r) (k' (cast (congrArg Ans h) r))) :
    Lockstep R (.call op k) (.call op' k') := by
  subst h
  exact .call op hk

theorem Lockstep.mono {R' : α → β → Prop} (h : Lockstep R p q) (hR : ∀ a b, R a b → R' a b) :
    Lockstep R' p q := by
  induction h with
  | done h => exact .done (hR _ _ h)
  | raise e => exact .raise e
  | call op _ ih => exact .call op ih

theorem lockstep_refl (p : Prog Op Ans ε α) : Lockstep (· = ·) p p := by
  induction p with
  | done a => exact .done rfl
  | raise e => exact .raise e
  | call op k ih => exact .call op ih

theorem Lockstep.bind {α' β' : Type} {R' : α' → β' → Prop} {f : α → Prog Op Ans ε α'}
    {g : β → Prog Op Ans ε β'} (h : Lockstep R p q) (hfg : ∀ a b, R a b → Lockstep R' (f a) (g b)) :
    Lockstep R' (p >>= f) (q >>= g) := by
  induction h with
  | done h => exact hfg _ _ h
  | raise e => exact .raise e
  | call op _ ih => exact .call op ih

theorem Lockstep.advance (h : Lockstep R p q) (exec : (op : Op) → χ → σ → Ans op × σ) (c : χ)
    (s : σ) :
    Lockstep R (p.advance exec c s).1 (q.advance exec c s).1 ∧
      (p.advance exec c s).2 = (q.advance exec c s).2 := by
  cases h with
  | done h => exact ⟨.done h, rfl⟩
  | raise e => exact ⟨.raise e, rfl⟩
  | call op h => exact ⟨h _, rfl⟩

end Prog

/-- What others may do to the device between operations, and which answers are allowed. -/
structure Contract (χ σ : Type) where
  rely : σ → σ → Prop
  allow : σ → χ → Prop

def Contract.Stable (C : Contract χ σ) (P : σ → Prop) : Prop :=
  ∀ s s', C.rely s s' → P s → P s'

variable {C : Contract χ σ}

theorem Contract.Stable.star {P : σ → Prop} (h : C.Stable P) {s s' : σ}
    (hs : ReflTransGen C.rely s s') (hP : P s) : P s' := by
  induction hs with
  | refl => exact hP
  | tail _ hstep ih => exact h _ _ hstep ih

theorem Contract.Stable.and {P Q : σ → Prop} (hP : C.Stable P)
    (hQ : C.Stable Q) : C.Stable fun s => P s ∧ Q s :=
  fun s s' h ⟨p, q⟩ => ⟨hP s s' h p, hQ s s' h q⟩

theorem Contract.stable_const (p : Prop) : C.Stable fun _ => p :=
  fun _ _ _ h => h

/-- At every point of every execution `I` holds; a return satisfies `Q`, a failure `E`. -/
def Safe (exec : (op : Op) → χ → σ → Ans op × σ) (C : Contract χ σ) (I : σ → Prop)
    (Q : α → σ → Prop) (E : ε → σ → Prop) : Prog Op Ans ε α → σ → Prop
  | .done a, s => ∀ s', ReflTransGen C.rely s s' → I s' ∧ Q a s'
  | .raise e, s => ∀ s', ReflTransGen C.rely s s' → I s' ∧ E e s'
  | .call op k, s => ∀ s', ReflTransGen C.rely s s' → I s' ∧
      ∀ c, C.allow s' c → Safe exec C I Q E (k (exec op c s').1) (exec op c s').2

section Rules

variable {exec : (op : Op) → χ → σ → Ans op × σ} {I P : σ → Prop} {Q : α → σ → Prop}
  {E : ε → σ → Prop} {s s' : σ} {p : Prog Op Ans ε α}

theorem Safe.now (h : Safe exec C I Q E p s) : I s := by
  cases p with
  | done a | raise e | call op k => exact (h s .refl).1

theorem Safe.rely (h : Safe exec C I Q E p s) (hs : ReflTransGen C.rely s s') :
    Safe exec C I Q E p s' := by
  cases p with
  | done a | raise e | call op k => exact fun t ht => h t (hs.trans ht)

/-- The step rule: answering one operation keeps a safe computation safe. -/
theorem Safe.advance {c : χ} (h : Safe exec C I Q E p s) (hc : C.allow s c) :
    Safe exec C I Q E (p.advance exec c s).1 (p.advance exec c s).2 := by
  cases p with
  | done a | raise e => exact h
  | call op k => exact (h s .refl).2 c hc

/-- The run rule: a safe computation is safe after any number of operations. -/
theorem Safe.run (h : Safe exec C I Q E p s) (hallow : ∀ t c, C.allow t c) (cs : List χ) :
    Safe exec C I Q E (p.run exec cs s).1 (p.run exec cs s).2 := by
  induction cs generalizing p s with
  | nil => exact h
  | cons c cs ih => exact ih (h.advance (hallow s c))

theorem Safe.result {a : α} (h : Safe exec C I Q E p s) (hp : p = .done a) : Q a s := by
  subst hp
  exact (h s .refl).2

theorem Safe.mono {I' : σ → Prop} {Q' : α → σ → Prop} {E' : ε → σ → Prop}
    (h : Safe exec C I Q E p s) (hI : ∀ t, I t → I' t) (hQ : ∀ a t, Q a t → Q' a t)
    (hE : ∀ e t, E e t → E' e t) : Safe exec C I' Q' E' p s := by
  induction p generalizing s with
  | done a => exact fun t ht => ⟨hI t (h t ht).1, hQ a t (h t ht).2⟩
  | raise e => exact fun t ht => ⟨hI t (h t ht).1, hE e t (h t ht).2⟩
  | call op k ih => exact fun t ht => ⟨hI t (h t ht).1, fun c hc => ih _ ((h t ht).2 c hc)⟩

theorem Safe.bind {f : α → Prog Op Ans ε β} {Q' : β → σ → Prop} (h : Safe exec C I Q E p s)
    (hf : ∀ a t, Q a t → Safe exec C I Q' E (f a) t) : Safe exec C I Q' E (p >>= f) s := by
  induction p generalizing s with
  | done a => exact hf a s (h s .refl).2
  | raise e => exact h
  | call op k ih => exact fun t ht => ⟨(h t ht).1, fun c hc => ih _ ((h t ht).2 c hc)⟩

theorem Safe.attempt {Q' : Except ε α → σ → Prop} {E' : ε → σ → Prop}
    (h : Safe exec C I (fun a => Q' (.ok a)) (fun e => Q' (.error e)) p s) :
    Safe exec C I Q' E' p.attempt s := by
  induction p generalizing s with
  | done a | raise e => exact h
  | call op k ih => exact fun t ht => ⟨(h t ht).1, fun c hc => ih _ ((h t ht).2 c hc)⟩

theorem safe_pure {a : α} (hP : C.Stable P) (hI : ∀ t, P t → I t) (hQ : ∀ t, P t → Q a t)
    (h : P s) : Safe exec C I Q E (pure a) s :=
  fun t ht => ⟨hI t (hP.star ht h), hQ t (hP.star ht h)⟩

theorem safe_raise {e : ε} (hP : C.Stable P) (hI : ∀ t, P t → I t) (hE : ∀ t, P t → E e t)
    (h : P s) : Safe exec C I Q E (.raise e) s :=
  fun t ht => ⟨hI t (hP.star ht h), hE t (hP.star ht h)⟩

theorem safe_of_forall (hI : ∀ t, I t) (hQ : ∀ a t, Q a t) (hE : ∀ e t, E e t)
    (p : Prog Op Ans ε α) : Safe exec C I Q E p s := by
  induction p generalizing s with
  | done a => exact fun t _ => ⟨hI t, hQ a t⟩
  | raise e => exact fun t _ => ⟨hI t, hE e t⟩
  | call op k ih => exact fun t _ => ⟨hI t, fun c _ => ih _⟩

/-- The operation rule: a stable assertion before it, and safety of what follows under every answer.
-/
theorem safe_call {op : Op} {k : Ans op → Prog Op Ans ε α} (hP : C.Stable P) (hI : ∀ t, P t → I t)
    (hk : ∀ t c, P t → C.allow t c → Safe exec C I Q E (k (exec op c t).1) (exec op c t).2)
    (h : P s) : Safe exec C I Q E (.call op k) s :=
  fun t ht => ⟨hI t (hP.star ht h), fun c hc => hk t c (hP.star ht h) hc⟩

end Rules

namespace Prog

section Deterministic

variable (exec : (op : Op) → σ → Ans op × σ)

def eval : Prog Op Ans ε α → σ → Except ε α × σ
  | done a, s => (.ok a, s)
  | raise e, s => (.error e, s)
  | call op k, s => (k (exec op s).1).eval (exec op s).2

/-- The states of the device a computation can be cut at, both ends included. -/
def Visits : Prog Op Ans ε α → σ → σ → Prop
  | done _, s, t => t = s
  | raise _, s, t => t = s
  | call op k, s, t => t = s ∨ (k (exec op s).1).Visits (exec op s).2 t

variable {exec} {s t u : σ} (op : Op) (k : Ans op → Prog Op Ans ε α) (a : α) (e : ε)

@[simp]
theorem eval_call : (call op k).eval exec s = (k (exec op s).1).eval exec (exec op s).2 := rfl

@[simp]
theorem eval_pure : (pure a : Prog Op Ans ε α).eval exec s = (.ok a, s) := rfl

@[simp]
theorem eval_raise : (raise e : Prog Op Ans ε α).eval exec s = (.error e, s) := rfl

@[simp]
theorem visits_call :
    (call op k).Visits exec s u ↔ u = s ∨ (k (exec op s).1).Visits exec (exec op s).2 u :=
  .rfl

@[simp]
theorem visits_pure : (pure a : Prog Op Ans ε α).Visits exec s u ↔ u = s := .rfl

@[simp]
theorem visits_raise : (raise e : Prog Op Ans ε α).Visits exec s u ↔ u = s := .rfl

variable {p : Prog Op Ans ε α} (f : α → Prog Op Ans ε β)

@[simp]
theorem eval_bind : (p >>= f).eval exec s =
    match p.eval exec s with
    | (.ok a, t) => (f a).eval exec t
    | (.error e, t) => (.error e, t) := by
  induction p generalizing s with
  | done b | raise e => rfl
  | call op k ih => exact ih _

theorem visits_self (p : Prog Op Ans ε α) : p.Visits exec s s := by
  cases p with
  | done a | raise e => rfl
  | call op k => exact .inl rfl

@[simp]
theorem visits_bind : (p >>= f).Visits exec s u ↔
    p.Visits exec s u ∨ ∃ a t, p.eval exec s = (.ok a, t) ∧ (f a).Visits exec t u := by
  induction p generalizing s with
  | done b =>
    refine ⟨fun h => .inr ⟨b, s, rfl, h⟩, ?_⟩
    rintro (rfl | ⟨a, t, h, hu⟩)
    · exact visits_self (f b)
    · cases h
      exact hu
  | raise e =>
    refine ⟨.inl, ?_⟩
    rintro (h | ⟨a, t, h, -⟩)
    · exact h
    · cases h
  | call op k ih => exact (or_congr .rfl (ih _)).trans or_assoc.symm

end Deterministic

end Prog

end QuotaScheduler.Lib.Resumable
