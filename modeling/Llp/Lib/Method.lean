/-
  Methods on a mutable object: programs that read and write one state, return a value, and
  may stop early with an error value or a panic.

  A method is an `EStateM` program whose error is a `Fault`. On a fault the state keeps
  every write made before it, as `&mut self` does when a call returns early. `focus` runs a
  method of a field inside a method of the whole, `onLocal` one of a local object. `machine`
  is the machine of the calls of a method: an input is the arguments of a call, an output what
  the call returned.

  `Keeps I m` says that `m` keeps `I`, however it ends, and `NoPanic m s` that `m` does not panic
  on `s`; their rules follow the text of `m`. `FailsClean m` says that `m` changes nothing when it
  fails.
-/
import Mathlib.Data.Nat.Notation
import Mathlib.Data.Option.Basic
import Llp.Lib.Machine

/-- What ends a method early: an error value it returns, or a panic. -/
inductive Fault (ε : Type) where
  | err (e : ε)
  | panic
deriving DecidableEq

/-- The same fault with its error value carried over. -/
def Fault.map {ε δ : Type} (f : ε → δ) : Fault ε → Fault δ
  | err e => .err (f e)
  | panic => .panic

/-- A method of an object `σ` that fails with `ε`. -/
abbrev Method (σ ε : Type) := EStateM (Fault ε) σ

/-- A function without state that fails with `ε` or panics. -/
abbrev Fallible (ε : Type) := Except (Fault ε)

namespace Fallible

variable {ε α β : Type}

theorem bind_ok {x : Fallible ε α} {f : α → Fallible ε β} {a : α} (h : x = .ok a) :
    (x >>= f) = f a := by
  rw [h]
  rfl

/-- What a function that returned did: its first call returned, and so did the rest. -/
theorem bind_eq_ok {x : Fallible ε α} {f : α → Fallible ε β} {b : β} (h : (x >>= f) = .ok b) :
    ∃ a, x = .ok a ∧ f a = .ok b := by
  cases x with
  | ok a => exact ⟨a, rfl, h⟩
  | error e => cases h

theorem map_eq_ok_iff {f : α → β} (hf : Function.Injective f) (x : Fallible ε α) (a : α) :
    f <$> x = .ok (f a) ↔ x = .ok a := by
  cases x with
  | ok b =>
      show (Except.ok (f b) : Fallible ε β) = .ok (f a) ↔ _
      rw [Except.ok.injEq, Except.ok.injEq]
      exact hf.eq_iff
  | error e => exact iff_of_false (fun h => by cases h) fun h => by cases h

theorem map_noPanic {x : Fallible ε α} (f : α → β) (h : x ≠ .error .panic) :
    f <$> x ≠ .error .panic := by
  intro hpanic
  cases x with
  | ok a => cases hpanic
  | error e =>
      cases hpanic
      exact h rfl

end Fallible

namespace Method

variable {σ τ ε δ α β : Type}

/-- Return an error value. -/
def fail (e : ε) : Method σ ε α := throw (.err e)

/-- `if c { return Err(e) }`. -/
def failIf (c : Prop) [Decidable c] (e : ε) : Method σ ε Unit := if c then fail e else pure ()

/-- Run a function without state inside a method. -/
def lift (x : Fallible ε α) : Method σ ε α := fun s =>
  match x with
  | .ok a => .ok a s
  | .error e => .error e s

/-- `ok_or(e)?`: the value of an option, or the error `e`. -/
def okOr (e : ε) : Option α → Method σ ε α
  | some a => pure a
  | none => fail e

/-- Run a method of a field of the object. -/
def focus (get : σ → τ) (put : τ → σ → σ) (m : Method τ ε α) : Method σ ε α := fun s =>
  match m (get s) with
  | .ok a t => .ok a (put t s)
  | .error e t => .error e (put t s)

/-- Run a method on a local object, which the call returns beside its value. -/
def onLocal (t : τ) (m : Method τ ε α) : Method σ ε (α × τ) := fun s =>
  match m t with
  | .ok a t => .ok (a, t) s
  | .error e _ => .error e s

/-- The same method with its error values carried over. -/
def mapError (f : ε → δ) (m : Method σ ε α) : Method σ δ α := fun s =>
  match m s with
  | .ok a t => .ok a t
  | .error e t => .error (e.map f) t

/-- The object after a call. -/
def state : EStateM.Result (Fault ε) σ α → σ
  | .ok _ s => s
  | .error _ s => s

/-- What a call returned. -/
def result : EStateM.Result (Fault ε) σ α → Fallible ε α
  | .ok a _ => .ok a
  | .error e _ => .error e

/-- Run a method on a local object, and drop the object. -/
def eval (m : Method σ ε α) (s : σ) : Fallible ε α := result (m s)

/-- The calls of a method, as a machine. -/
def machine {ι : Type} (m : ι → Method σ ε α) : Machine σ ι (Fallible ε α) where
  step s x := (result (m x s), state (m x s))

/-! ## One call at a time -/

@[simp] theorem pure_apply (a : α) (s : σ) : (pure a : Method σ ε α) s = .ok a s := rfl

@[simp] theorem get_apply (s : σ) : (get : Method σ ε σ) s = .ok s s := rfl

@[simp] theorem set_apply (s t : σ) : (set t : Method σ ε PUnit) s = .ok ⟨⟩ t := rfl

@[simp] theorem modify_apply (f : σ → σ) (s : σ) :
    (modify f : Method σ ε PUnit) s = .ok ⟨⟩ (f s) := rfl

@[simp] theorem fail_apply (e : ε) (s : σ) : (fail e : Method σ ε α) s = .error (.err e) s :=
  rfl

@[simp] theorem lift_ok (a : α) (s : σ) :
    (lift (.ok a) : Method σ ε α) s = .ok a s := rfl

@[simp] theorem lift_error (e : Fault ε) (s : σ) :
    (lift (.error e) : Method σ ε α) s = .error e s := rfl

@[simp] theorem okOr_some (e : ε) (a : α) : (okOr e (some a) : Method σ ε α) = pure a := rfl

@[simp] theorem okOr_none (e : ε) : (okOr e none : Method σ ε α) = fail e := rfl

theorem failIf_pos {c : Prop} [Decidable c] (e : ε) (h : c) (s : σ) :
    failIf c e s = .error (.err e) s := by
  rw [failIf, if_pos h, fail_apply]

theorem failIf_neg {c : Prop} [Decidable c] (e : ε) (h : ¬ c) (s : σ) :
    failIf c e s = .ok () s := by
  rw [failIf, if_neg h, pure_apply]

/-- A call that returns goes on with the rest of the method. -/
theorem bind_ok {m : Method σ ε α} {f : α → Method σ ε β} {s t : σ} {a : α}
    (h : m s = .ok a t) : (m >>= f) s = f a t := by
  show EStateM.bind m f s = f a t
  simp only [EStateM.bind, h]

/-- A call that faults ends the method, and keeps what it wrote. -/
theorem bind_error {m : Method σ ε α} {f : α → Method σ ε β} {s t : σ} {e : Fault ε}
    (h : m s = .error e t) : (m >>= f) s = .error e t := by
  show EStateM.bind m f s = .error e t
  simp only [EStateM.bind, h]

theorem bind_apply (m : Method σ ε α) (f : α → Method σ ε β) (s : σ) :
    (m >>= f) s =
      match m s with
      | .ok a t => f a t
      | .error e t => .error e t := by
  cases h : m s with
  | ok a t => exact bind_ok h
  | error e t => exact bind_error h

@[simp] theorem get_bind (f : σ → Method σ ε β) (s : σ) : (get >>= f) s = f s s := rfl

@[simp] theorem set_bind (t : σ) (f : PUnit → Method σ ε β) (s : σ) :
    (set t >>= f) s = f ⟨⟩ t := rfl

@[simp] theorem modify_bind (g : σ → σ) (f : PUnit → Method σ ε β) (s : σ) :
    (modify g >>= f) s = f ⟨⟩ (g s) := rfl

@[simp] theorem fail_bind (e : ε) (f : α → Method σ ε β) (s : σ) :
    ((fail e : Method σ ε α) >>= f) s = .error (.err e) s := rfl

/-- What a method that returned did: its first call returned, and so did the rest. -/
theorem bind_eq_ok {m : Method σ ε α} {f : α → Method σ ε β} {s u : σ} {b : β}
    (h : (m >>= f) s = .ok b u) : ∃ a t, m s = .ok a t ∧ f a t = .ok b u := by
  cases hm : m s with
  | ok a t => exact ⟨a, t, rfl, (bind_ok hm).symm.trans h⟩
  | error e t =>
      rw [bind_error hm] at h
      cases h

theorem exists_bind_ok {m : Method σ ε α} {f : α → Method σ ε β} {s t : σ} {a : α}
    (hm : m s = .ok a t) (hf : ∃ b u, f a t = .ok b u) : ∃ b u, (m >>= f) s = .ok b u := by
  obtain ⟨b, u, hrest⟩ := hf
  exact ⟨b, u, (bind_ok hm).trans hrest⟩

theorem eval_eq_ok {m : Method σ ε α} {s : σ} {a : α} (h : m.eval s = .ok a) :
    ∃ t, m s = .ok a t := by
  cases hm : m s with
  | ok b t =>
      rw [eval, hm] at h
      cases h
      exact ⟨t, rfl⟩
  | error e t =>
      rw [eval, hm] at h
      cases h

theorem focus_ok {get : σ → τ} {put : τ → σ → σ} {m : Method τ ε α} {s : σ} {a : α} {t : τ}
    (h : m (get s) = .ok a t) : focus get put m s = .ok a (put t s) := by
  simp only [focus, h]

theorem focus_error {get : σ → τ} {put : τ → σ → σ} {m : Method τ ε α} {s : σ}
    {e : Fault ε} {t : τ} (h : m (get s) = .error e t) :
    focus get put m s = .error e (put t s) := by
  simp only [focus, h]

/-- Two calls on one part are a call on it. -/
theorem focus_bind {get : σ → τ} {put : τ → σ → σ} (hget : ∀ t s, get (put t s) = t)
    (hput : ∀ t t' s, put t' (put t s) = put t' s) (m : Method τ ε α) (f : α → Method τ ε β) :
    (do let a ← focus get put m; focus get put (f a)) = focus get put (m >>= f) := by
  funext s
  cases hm : m (get s) with
  | error e t => rw [bind_error (focus_error hm), focus_error (bind_error hm)]
  | ok a t =>
      rw [bind_ok (focus_ok hm)]
      simp only [focus, bind_ok hm, hget, hput]

theorem onLocal_ok {t t' : τ} {m : Method τ ε α} {a : α} (h : m t = .ok a t') (s : σ) :
    onLocal t m s = .ok (a, t') s := by
  simp only [onLocal, h]

theorem onLocal_error {t t' : τ} {m : Method τ ε α} {e : Fault ε} (h : m t = .error e t')
    (s : σ) : onLocal t m s = .error e s := by
  simp only [onLocal, h]

theorem mapError_ok {f : ε → δ} {m : Method σ ε α} {s t : σ} {a : α} (h : m s = .ok a t) :
    mapError f m s = .ok a t := by
  simp only [mapError, h]

theorem mapError_error {f : ε → δ} {m : Method σ ε α} {s t : σ} {e : Fault ε}
    (h : m s = .error e t) : mapError f m s = .error (e.map f) t := by
  simp only [mapError, h]

theorem focus_eq_ok {get : σ → τ} {put : τ → σ → σ} {m : Method τ ε α} {s u : σ} {a : α}
    (h : focus get put m s = .ok a u) : ∃ t, m (get s) = .ok a t ∧ u = put t s := by
  cases hm : m (get s) with
  | ok b t =>
      rw [focus_ok hm] at h
      cases h
      exact ⟨t, rfl, rfl⟩
  | error e t =>
      rw [focus_error hm] at h
      cases h

theorem onLocal_eq_ok {t t' : τ} {m : Method τ ε α} {s s' : σ} {a : α}
    (h : onLocal t m s = .ok (a, t') s') : m t = .ok a t' ∧ s = s' := by
  cases hm : m t with
  | ok b u =>
      rw [onLocal_ok hm] at h
      cases h
      exact ⟨rfl, rfl⟩
  | error e u =>
      rw [onLocal_error hm] at h
      cases h

theorem mapError_eq_ok {f : ε → δ} {m : Method σ ε α} {s t : σ} {a : α}
    (h : mapError f m s = .ok a t) : m s = .ok a t := by
  cases hm : m s with
  | ok b u =>
      rw [mapError_ok hm] at h
      cases h
      rfl
  | error e u =>
      rw [mapError_error hm] at h
      cases h

theorem lift_eq_ok {x : Fallible ε α} {s t : σ} {a : α} (h : lift x s = .ok a t) :
    x = .ok a ∧ t = s := by
  cases x with
  | ok b =>
      cases h
      exact ⟨rfl, rfl⟩
  | error e => cases h

theorem failIf_iff {c : Prop} [Decidable c] {e : ε} {s t : σ} :
    failIf c e s = .ok () t ↔ ¬ c ∧ t = s := by
  by_cases hc : c
  · rw [failIf_pos e hc]
    exact iff_of_false (fun h => by cases h) fun h => h.1 hc
  · rw [failIf_neg e hc]
    constructor
    · intro h
      cases h
      exact ⟨hc, rfl⟩
    · rintro ⟨-, rfl⟩
      rfl

theorem failIf_eq_ok {c : Prop} [Decidable c] {e : ε} {s t : σ}
    (h : failIf c e s = .ok () t) : ¬ c ∧ t = s := failIf_iff.mp h

theorem okOr_eq_ok {e : ε} {o : Option α} {s t : σ} {a : α}
    (h : (okOr e o : Method σ ε α) s = .ok a t) : o = some a ∧ t = s := by
  cases o with
  | some b =>
      cases h
      exact ⟨rfl, rfl⟩
  | none => cases h

/-- A method that returned has passed the check it began with. -/
theorem failIf_bind_eq_ok {c : Prop} [Decidable c] {e : ε} {f : Unit → Method σ ε β} {s u : σ}
    {b : β} (h : (failIf c e >>= f) s = .ok b u) : ¬ c ∧ f () s = .ok b u := by
  obtain ⟨_, _, hcheck, hrest⟩ := bind_eq_ok h
  obtain ⟨hc, rfl⟩ := failIf_eq_ok hcheck
  exact ⟨hc, hrest⟩

/-- It had the value it began with. -/
theorem okOr_bind_eq_ok {e : ε} {o : Option α} {f : α → Method σ ε β} {s u : σ} {b : β}
    (h : (okOr e o >>= f) s = .ok b u) : ∃ a, o = some a ∧ f a s = .ok b u := by
  obtain ⟨a, _, hvalue, hrest⟩ := bind_eq_ok h
  obtain ⟨ha, rfl⟩ := okOr_eq_ok hvalue
  exact ⟨a, ha, hrest⟩

/-! ## Outcomes -/

@[simp] theorem state_ok (a : α) (s : σ) :
    state (EStateM.Result.ok a s : EStateM.Result (Fault ε) σ α) = s := rfl

@[simp] theorem state_error (e : Fault ε) (s : σ) :
    state (EStateM.Result.error e s : EStateM.Result (Fault ε) σ α) = s := rfl

@[simp] theorem state_mapError (f : ε → δ) (m : Method σ ε α) (s : σ) :
    state (mapError f m s) = state (m s) := by
  unfold mapError
  split
  · next h => rw [h, state_ok, state_ok]
  · next h => rw [h, state_error, state_error]

/-- To drop the value changes nothing. -/
theorem state_bind_pure (m : Method σ ε α) (b : β) (s : σ) :
    state ((m >>= fun _ => pure b) s) = state (m s) := by
  cases h : m s with
  | ok a t => rw [bind_ok h, pure_apply, state_ok, state_ok]
  | error e t => rw [bind_error h, state_error, state_error]

@[simp] theorem result_ok (a : α) (s : σ) :
    result (EStateM.Result.ok a s : EStateM.Result (Fault ε) σ α) = .ok a := rfl

@[simp] theorem result_error (e : Fault ε) (s : σ) :
    result (EStateM.Result.error e s : EStateM.Result (Fault ε) σ α) = .error e := rfl

theorem isOk_result {r : EStateM.Result (Fault ε) σ α} :
    (result r).isOk = true ↔ ∃ a s, r = .ok a s := by
  cases r with
  | ok a s => exact iff_of_true rfl ⟨a, s, rfl⟩
  | error e s => exact iff_of_false Bool.false_ne_true fun ⟨_, _, h⟩ => by cases h

/-! ## What a method keeps -/

/-- `m` keeps `I`, whether it returns or faults. -/
def Keeps (I : σ → Prop) (m : Method σ ε α) : Prop := ∀ s, I s → I (state (m s))

namespace Keeps

variable {I : σ → Prop}

theorem bind {m : Method σ ε α} {f : α → Method σ ε β} (hm : Keeps I m)
    (hf : ∀ a, Keeps I (f a)) : Keeps I (m >>= f) := by
  intro s hs
  have hmid := hm s hs
  cases h : m s with
  | ok a t =>
      rw [bind_ok h]
      rw [h] at hmid
      exact hf a t hmid
  | error e t =>
      rw [bind_error h]
      rwa [h] at hmid

theorem failIf (c : Prop) [Decidable c] (e : ε) : Keeps I (Method.failIf (σ := σ) c e) := by
  intro s hs
  by_cases hc : c
  · rwa [failIf_pos e hc]
  · rwa [failIf_neg e hc]

theorem okOr (e : ε) (o : Option α) : Keeps I (Method.okOr e o) := by
  intro s hs
  cases o with
  | none => exact hs
  | some a => exact hs

theorem modify {g : σ → σ} (h : ∀ s, I s → I (g s)) :
    Keeps I (modify g : Method σ ε PUnit) := h

theorem pure (a : α) : Keeps I (Pure.pure a : Method σ ε α) := fun _ hs => hs

theorem get : Keeps I (MonadState.get : Method σ ε σ) := fun _ hs => hs

theorem lift (x : Fallible ε α) : Keeps I (Method.lift x) := by
  intro s hs
  cases x with
  | ok a => exact hs
  | error e => exact hs

theorem mapError {f : ε → δ} {m : Method σ ε α} (hm : Keeps I m) :
    Keeps I (Method.mapError f m) := by
  intro s hs
  rw [state_mapError]
  exact hm s hs

theorem onLocal (t : τ) (m : Method τ ε α) : Keeps I (Method.onLocal (σ := σ) t m) := by
  intro s hs
  unfold Method.onLocal
  split
  · exact hs
  · exact hs

theorem focus {get : σ → τ} {put : τ → σ → σ} {m : Method τ ε α}
    (h : ∀ s, I s → I (put (state (m (get s))) s)) : Keeps I (Method.focus get put m) := by
  intro s hs
  have hput := h s hs
  cases hm : m (get s) with
  | ok a t =>
      rw [focus_ok hm]
      rwa [hm] at hput
  | error e t =>
      rw [focus_error hm]
      rwa [hm] at hput

end Keeps

/-! ## Methods that fail without effect -/

/-- Where `m` fails, it leaves the object as it was. -/
def FailsClean (m : Method σ ε α) : Prop := ∀ s e t, m s = .error e t → t = s

namespace FailsClean

variable {m : Method σ ε α}

theorem of_cases (h : ∀ s, (∃ a t, m s = .ok a t) ∨ ∃ e, m s = .error e s) : FailsClean m := by
  intro s e t herr
  rcases h s with ⟨a, u, hok⟩ | ⟨e', herr'⟩
  · rw [hok] at herr
    cases herr
  · rw [herr'] at herr
    cases herr
    rfl

/-- To carry the value over changes nothing. -/
theorem bind_pure (hm : FailsClean m) (f : α → β) :
    FailsClean (m >>= fun a => Pure.pure (f a)) := by
  intro s e t herr
  cases h : m s with
  | ok a u =>
      rw [bind_ok h] at herr
      cases herr
  | error e' u =>
      rw [bind_error h] at herr
      cases herr
      exact hm s _ _ h

/-- The object after a call that failed. -/
theorem state (hm : FailsClean m) {s : σ} (h : (Method.result (m s)).isOk = false) :
    Method.state (m s) = s := by
  cases hs : m s with
  | ok a t =>
      rw [hs] at h
      cases h
  | error e t => exact hm s e t hs

end FailsClean

/-! ## Methods that do not panic -/

/-- `m` does not panic on `s`. -/
def NoPanic (m : Method σ ε α) (s : σ) : Prop := ∀ t, m s ≠ .error .panic t

namespace NoPanic

variable {m : Method σ ε α} {f : α → Method σ ε β} {s : σ}

theorem bind (hm : NoPanic m s) (hf : ∀ a t, m s = .ok a t → NoPanic (f a) t) :
    NoPanic (m >>= f) s := by
  intro t h
  cases hfirst : m s with
  | ok a u =>
      rw [bind_ok hfirst] at h
      exact hf a u hfirst t h
  | error e u =>
      rw [bind_error hfirst] at h
      cases h
      exact hm t hfirst

theorem pure (a : α) (s : σ) : NoPanic (Pure.pure a : Method σ ε α) s := by
  intro t h
  cases h

theorem set (u s : σ) : NoPanic (MonadStateOf.set u : Method σ ε PUnit) s := by
  intro t h
  cases h

theorem get_bind {f : σ → Method σ ε β} (h : NoPanic (f s) s) :
    NoPanic ((MonadState.get : Method σ ε σ) >>= f) s := h

theorem failIf_bind {c : Prop} [Decidable c] {e : ε} {f : Unit → Method σ ε β}
    (h : ¬ c → NoPanic (f ()) s) : NoPanic (Method.failIf c e >>= f) s := by
  refine bind ?_ fun _ t hok => ?_
  · intro t
    by_cases hc : c
    · rw [failIf_pos e hc]
      intro hpanic
      cases hpanic
    · rw [failIf_neg e hc]
      intro hpanic
      cases hpanic
  · obtain ⟨hc, rfl⟩ := failIf_eq_ok hok
    exact h hc

theorem lift {x : Fallible ε α} (hx : x ≠ .error .panic) (s : σ) :
    NoPanic (Method.lift x : Method σ ε α) s := by
  intro t h
  cases x with
  | ok a => cases h
  | error e =>
      cases h
      exact hx rfl

theorem lift_bind {x : Fallible ε α} (hx : x ≠ .error .panic)
    (h : ∀ a, x = .ok a → NoPanic (f a) s) : NoPanic (Method.lift x >>= f) s := by
  refine bind (lift hx s) fun a t hok => ?_
  obtain ⟨ha, rfl⟩ := lift_eq_ok hok
  exact h a ha

/-- What it returns is no panic. -/
theorem result (h : NoPanic m s) : Method.result (m s) ≠ .error .panic := by
  intro hpanic
  cases hm : m s with
  | ok a t =>
      rw [hm] at hpanic
      cases hpanic
  | error e t =>
      rw [hm] at hpanic
      cases hpanic
      exact h t hm

end NoPanic

end Method

/-- `Option::unwrap`: panics on `None`. -/
def Option.unwrap {ε α : Type} : Option α → Fallible ε α
  | some a => .ok a
  | none => .error .panic

theorem Option.unwrap_noPanic {ε α : Type} {o : Option α} (h : o.isSome) :
    (o.unwrap : Fallible ε α) ≠ .error .panic := by
  obtain ⟨a, rfl⟩ := Option.isSome_iff_exists.mp h
  intro hpanic
  cases hpanic
