import Mathlib.Logic.Basic

namespace NatStream.Lib.Effects

variable {σ ε α β : Type}

/-- A computation over a state that may fail. What it did to the state before
it failed stays done. -/
def Fallible (σ ε α : Type) : Type := σ → Except ε α × σ

def succeed (a : α) : Fallible σ ε α := fun s => (.ok a, s)

def fail (e : ε) : Fallible σ ε α := fun s => (.error e, s)

def andThen (x : Fallible σ ε α) (f : α → Fallible σ ε β) : Fallible σ ε β := fun s =>
  match x s with
  | (.ok a, s') => f a s'
  | (.error e, s') => (.error e, s')

instance : Monad (Fallible σ ε) where
  pure := succeed
  bind := andThen

def modify (f : σ → σ) : Fallible σ ε Unit := fun s => (.ok (), f s)

/-- Run a computation and hand on its result, whether or not it failed. -/
def observe (x : Fallible σ ε α) : Fallible σ ε (Except ε α) := fun s => (.ok (x s).1, (x s).2)

def ofExcept : Except ε α → Fallible σ ε α
  | .ok a => succeed a
  | .error e => fail e

/-- A value in scope: it is cleaned up if the computation fails. -/
def onError (cleanup : σ → σ) (x : Fallible σ ε α) : Fallible σ ε α := fun s =>
  match x s with
  | (.ok a, s') => (.ok a, s')
  | (.error e, s') => (.error e, cleanup s')

def mapError (f : ε → ε) (x : Fallible σ ε α) : Fallible σ ε α := fun s =>
  ((x s).1.mapError f, (x s).2)

/-- What a computation ends with satisfies one of two conditions. -/
def Ends (ok : α → σ → Prop) (err : σ → Prop) : Except ε α × σ → Prop
  | (.ok a, s) => ok a s
  | (.error _, s) => err s

/-- From a state with the first property the computation succeeds with the
second or fails with the third. -/
def Meets (x : Fallible σ ε α) (pre : σ → Prop) (ok : α → σ → Prop) (err : σ → Prop) : Prop :=
  ∀ s, pre s → Ends ok err (x s)

variable {x : Fallible σ ε α} {f : α → Fallible σ ε β} {pre pre' err err' : σ → Prop}
  {ok ok' : α → σ → Prop} {done : β → σ → Prop}

theorem Ends.imp {r : Except ε α × σ} (h : Ends ok err r) (hok : ∀ a s, ok a s → ok' a s)
    (herr : ∀ s, err s → err' s) : Ends ok' err' r := by
  obtain ⟨result, s⟩ := r
  cases result with
  | ok a => exact hok a s h
  | error e => exact herr s h

theorem Meets.weaken (h : Meets x pre ok err) (hpre : ∀ s, pre' s → pre s)
    (hok : ∀ a s, ok a s → ok' a s) (herr : ∀ s, err s → err' s) : Meets x pre' ok' err' :=
  fun s hs => (h s (hpre s hs)).imp hok herr

theorem Meets.weaken_pre (h : Meets x pre ok err) (hpre : ∀ s, pre' s → pre s) :
    Meets x pre' ok err :=
  h.weaken hpre (fun _ _ hs => hs) fun _ hs => hs

theorem Meets.weaken_ok (h : Meets x pre ok err) (hok : ∀ a s, ok a s → ok' a s) :
    Meets x pre ok' err :=
  h.weaken (fun _ hs => hs) hok fun _ hs => hs

theorem Meets.weaken_err (h : Meets x pre ok err) (herr : ∀ s, err s → err' s) :
    Meets x pre ok err' :=
  h.weaken (fun _ hs => hs) (fun _ _ hs => hs) herr

theorem meets_pure {a : α} (h : ∀ s, pre s → ok a s) :
    Meets (pure a : Fallible σ ε α) pre ok err :=
  fun s hs => h s hs

theorem meets_fail {e : ε} (h : ∀ s, pre s → err s) :
    Meets (fail e : Fallible σ ε α) pre ok err :=
  fun s hs => h s hs

theorem meets_modify {g : σ → σ} {post : Unit → σ → Prop} (h : ∀ s, pre s → post () (g s)) :
    Meets (modify g : Fallible σ ε Unit) pre post err :=
  fun s hs => h s hs

theorem meets_exists {ι : Sort*} {pres : ι → σ → Prop} (h : ∀ i, Meets x (pres i) ok err) :
    Meets x (fun s => ∃ i, pres i s) ok err := by
  rintro s ⟨i, hs⟩
  exact h i s hs

theorem meets_and {fact : Prop} (h : fact → Meets x pre ok err) :
    Meets x (fun s => fact ∧ pre s) ok err := by
  rintro s ⟨hfact, hs⟩
  exact h hfact s hs

theorem Meets.bind (hx : Meets x pre ok err) (hf : ∀ a, Meets (f a) (ok a) done err) :
    Meets (x >>= f) pre done err := by
  intro s hs
  have hr := hx s hs
  change Ends done err (andThen x f s)
  rw [andThen]
  generalize x s = r at hr
  obtain ⟨result, s'⟩ := r
  cases result with
  | ok a => exact hf a s' hr
  | error e => exact hr

theorem Meets.observe (hx : Meets x pre ok err) :
    Meets (observe x) pre (fun result s => Ends ok err (result, s)) err' :=
  fun s hs => hx s hs

theorem meets_ofExcept {result : Except ε α} (h : ∀ s, pre s → Ends ok err (result, s)) :
    Meets (ofExcept result : Fallible σ ε α) pre ok err := by
  intro s hs
  have hr := h s hs
  cases result with
  | ok a => exact hr
  | error e => exact hr

theorem Meets.onError {cleanup : σ → σ} (hx : Meets x pre ok err')
    (h : ∀ s, err' s → err (cleanup s)) : Meets (onError cleanup x) pre ok err := by
  intro s hs
  have hr := hx s hs
  rw [Effects.onError]
  generalize x s = r at hr
  obtain ⟨result, s'⟩ := r
  cases result with
  | ok a => exact hr
  | error e => exact h s' hr

theorem Meets.mapError {g : ε → ε} (hx : Meets x pre ok err) : Meets (mapError g x) pre ok err := by
  intro s hs
  have hr := hx s hs
  rw [Effects.mapError]
  generalize x s = r at hr
  obtain ⟨result, s'⟩ := r
  cases result with
  | ok a => exact hr
  | error e => exact hr

end NatStream.Lib.Effects
