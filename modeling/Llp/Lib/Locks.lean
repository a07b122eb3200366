/-
  Tasks that share data under read-write locks.

  A task is a program that acquires and releases locks, acts on the shared data, waits for
  input from outside and spawns other tasks. The locks are fair: a task that asks for a lock
  enters its queue, and gets the lock once it is first there and no holder is in the way.

  Programs are `Ordered` when each asks for locks of a higher rank than all it holds, keeps
  none when it ends, and waits for input without a lock or under an input lock taken just
  before.

  * `Sound.step`: pools of ordered programs stay sound.
  * `Sound.chain`: every unfinished task waits, maybe through others, for a task that can make
    a step or is stuck waiting for input. So all that stops such a pool is missing input.
  * `Clear.step`: in steps that meet `careful`, no task comes to wait for a stuck one.
  * `Sound.progress`: where no task waits for a stuck one, every unfinished task that takes no
    input can make a step, or waits for one that can.
  * `Jam.step`: a task that waits for a stuck one does so until that one gets input.
  * `Idle.steps_alone`: where no other task has a lock, the steps of a task do what its program
    does alone.
-/
import Mathlib.Data.List.Basic
import Mathlib.Data.List.Nodup
import Mathlib.Logic.Function.Basic
import Mathlib.Logic.Relation
import Llp.Lib.Tables

namespace Locks

/-! ## Programs -/

/-- How a lock is taken. -/
inductive Access where
  | read
  | write
deriving DecidableEq

/-- Two tasks may have a lock at the same time when both read. -/
def Access.shares : Access → Access → Bool
  | read, read => true
  | _, _ => false

/-- What a task of a kind `κ` has left to do, over locks `L`, shared data `σ` and input `ι`. -/
inductive Prog (κ L σ ι : Type) where
  | done
  /-- start over -/
  | restart
  | acquire (l : L) (mode : Access) (next : Prog κ L σ ι)
  | release (l : L) (next : Prog κ L σ ι)
  /-- go on as the data tell, which `f` then changes -/
  | act (f : σ → σ) (next : σ → Prog κ L σ ι)
  /-- wait for input -/
  | recv (next : ι → Prog κ L σ ι)
  | spawn (kind : κ) (next : Prog κ L σ ι)

variable {κ L σ ι : Type}

/-- The order in which locks are asked for, the locks under which a task may wait for input, and
    the kinds of tasks that take input. -/
structure Discipline (κ L : Type) where
  rank : L → ℕ
  inputLock : L → Bool
  takesInput : κ → Bool

theorem Discipline.ne_of_rank_lt (D : Discipline κ L) {k l : L} (h : D.rank k < D.rank l) :
    k ≠ l := by
  rintro rfl
  omega

namespace Prog

/-- Look at the data. -/
def look (next : σ → Prog κ L σ ι) : Prog κ L σ ι := act id next

/-- A block under a lock. -/
def locked (l : L) (mode : Access) (f : σ → σ) (next : σ → Prog κ L σ ι) : Prog κ L σ ι :=
  acquire l mode (act f fun s => release l (next s))

def isDone : Prog κ L σ ι → Bool
  | done => true
  | _ => false

def isRecv : Prog κ L σ ι → Bool
  | recv _ => true
  | _ => false

/-- What a program makes of the data when nothing interrupts it, up to its first input. -/
def alone : Prog κ L σ ι → σ → σ
  | done, s => s
  | restart, s => s
  | acquire _ _ next, s => next.alone s
  | release _ next, s => next.alone s
  | act f next, s => (next s).alone (f s)
  | recv _, s => s
  | spawn _ next, s => next.alone s

/-- The program of a task of the kind keeps the discipline, if the task holds `held`. -/
inductive Ordered [DecidableEq L] (D : Discipline κ L) (kind : κ) :
    List (L × Access) → Prog κ L σ ι → Prop where
  | done : Ordered D kind [] done
  | restart : Ordered D kind [] restart
  | acquire {held : List (L × Access)} {l : L} {mode : Access} {next : Prog κ L σ ι}
      (hrank : ∀ h ∈ held, D.rank h.1 < D.rank l)
      (hnext : Ordered D kind ((l, mode) :: held) next) :
      Ordered D kind held (acquire l mode next)
  | acquireRecv {l : L} {mode : Access} {next : ι → Prog κ L σ ι}
      (hkind : D.takesInput kind = true) (hl : D.inputLock l = true)
      (hnext : ∀ x, Ordered D kind [(l, mode)] (next x)) :
      Ordered D kind [] (acquire l mode (recv next))
  | release {held : List (L × Access)} {l : L} {next : Prog κ L σ ι}
      (hnext : Ordered D kind (held.filter fun h => h.1 ≠ l) next) :
      Ordered D kind held (release l next)
  | act {held : List (L × Access)} {f : σ → σ} {next : σ → Prog κ L σ ι}
      (hnext : ∀ s, Ordered D kind held (next s)) : Ordered D kind held (act f next)
  | recv {next : ι → Prog κ L σ ι} (hkind : D.takesInput kind = true)
      (hnext : ∀ x, Ordered D kind [] (next x)) : Ordered D kind [] (recv next)
  | spawn {held : List (L × Access)} {child : κ} {next : Prog κ L σ ι}
      (hnext : Ordered D kind held next) : Ordered D kind held (spawn child next)

/-- A program that ends, starts over or waits for input, and has not just taken a lock. -/
def bare : Prog κ L σ ι → Bool
  | done => true
  | restart => true
  | recv _ => true
  | _ => false

section Ordered

variable [DecidableEq L] {D : Discipline κ L} {kind : κ} {held : List (L × Access)}

theorem Ordered.held_eq_nil {p : Prog κ L σ ι} (h : Ordered D kind held p)
    (hp : p.bare = true) : held = [] := by
  cases h with
  | done => rfl
  | restart => rfl
  | recv hkind hnext => rfl
  | _ => cases hp

theorem Ordered.of_acquire {l : L} {mode : Access} {next : Prog κ L σ ι}
    (h : Ordered D kind held (.acquire l mode next)) :
    Ordered D kind ((l, mode) :: held) next ∨ ∃ k, next = .recv k := by
  cases h with
  | acquire hrank hnext => exact Or.inl hnext
  | acquireRecv hkind hl hnext => exact Or.inr ⟨_, rfl⟩

theorem Ordered.of_release {l : L} {next : Prog κ L σ ι}
    (h : Ordered D kind held (.release l next)) :
    Ordered D kind (held.filter fun h => h.1 ≠ l) next := by
  cases h with
  | release hnext => exact hnext

theorem Ordered.of_act {f : σ → σ} {next : σ → Prog κ L σ ι}
    (h : Ordered D kind held (.act f next)) (s : σ) :
    Ordered D kind held (next s) := by
  cases h with
  | act hnext => exact hnext s

theorem Ordered.of_recv {next : ι → Prog κ L σ ι} (h : Ordered D kind held (.recv next))
    (x : ι) : Ordered D kind held (next x) := by
  cases h with
  | recv hkind hnext => exact hnext x

theorem Ordered.of_spawn {child : κ} {next : Prog κ L σ ι}
    (h : Ordered D kind held (.spawn child next)) : Ordered D kind held next := by
  cases h with
  | spawn hnext => exact hnext

/-- A task that asks for a lock holds locks of lower rank. -/
theorem Ordered.rank_lt {l : L} {mode : Access} {next : Prog κ L σ ι}
    (h : Ordered D kind held (.acquire l mode next)) : ∀ x ∈ held, D.rank x.1 < D.rank l := by
  cases h with
  | acquire hrank hnext => exact hrank
  | acquireRecv hkind hl hnext => exact fun x hx => absurd hx (List.not_mem_nil)

theorem Ordered.locked {l : L} {mode : Access} {f : σ → σ} {next : σ → Prog κ L σ ι}
    (hrank : ∀ h ∈ held, D.rank h.1 < D.rank l)
    (hnext : ∀ s, Ordered D kind held (next s)) :
    Ordered D kind held (.locked l mode f next) := by
  have hkeep : held.filter (fun h => h.1 ≠ l) = held := by
    apply List.filter_eq_self.mpr
    intro h hh
    rw [decide_eq_true_eq]
    exact D.ne_of_rank_lt (hrank h hh)
  refine .acquire hrank (.act fun s => .release ?_)
  rw [List.filter_cons_of_neg (by simp), hkeep]
  exact hnext s

end Ordered

end Prog

/-! ## Pools -/

/-- A task: its program, the locks it holds, and the input it has not received yet. -/
structure Task (κ L σ ι : Type) where
  kind : κ
  prog : Prog κ L σ ι
  held : List (L × Access)
  inbox : List ι

namespace Task

def new (body : κ → Prog κ L σ ι) (kind : κ) : Task κ L σ ι := ⟨kind, body kind, [], []⟩

/-- It waits for input that is not there. -/
def stuck (t : Task κ L σ ι) : Bool := t.prog.isRecv && t.inbox.isEmpty

variable [DecidableEq L]

def holds (l : L) (t : Task κ L σ ι) : Bool := t.held.any fun h => h.1 = l

/-- It does not keep others from taking `l` with `mode`. -/
def admits (l : L) (mode : Access) (t : Task κ L σ ι) : Bool :=
  t.held.all fun h => h.1 ≠ l || h.2.shares mode

/-- The discipline of a task. While it waits for input under a lock, the lock is the only one
    it holds. -/
def Ordered (D : Discipline κ L) (t : Task κ L σ ι) : Prop :=
  Prog.Ordered D t.kind t.held t.prog ∨
    ∃ l mode next, D.takesInput t.kind = true ∧ D.inputLock l = true ∧ t.held = [(l, mode)] ∧
      t.prog = .recv next ∧ ∀ x, Prog.Ordered D t.kind [(l, mode)] (next x)

/-- A task that does not wait for input keeps the discipline of programs. -/
theorem Ordered.prog {D : Discipline κ L} {t : Task κ L σ ι} (h : t.Ordered D)
    {p : Prog κ L σ ι} (hp : t.prog = p) (hno : p.isRecv = false) :
    Prog.Ordered D t.kind t.held p := by
  subst hp
  rcases h with h | ⟨l, mode, next, -, -, -, hrecv, -⟩
  · exact h
  · rw [hrecv] at hno
    cases hno

/-- A task that takes no input does not wait for it. -/
theorem Ordered.not_stuck {D : Discipline κ L} {t : Task κ L σ ι} (h : t.Ordered D)
    (hkind : D.takesInput t.kind = false) : t.stuck = false := by
  rcases h with h | ⟨l, mode, next, hinput, -⟩
  · unfold stuck
    generalize t.prog = p, t.held = held at h ⊢
    cases h with
    | recv hinput hnext =>
        rw [hkind] at hinput
        cases hinput
    | _ => rfl
  · rw [hkind] at hinput
    cases hinput

end Task

/-- The data, the tasks in the order they were spawned, and the queue of each lock. -/
structure Pool (κ L σ ι : Type) where
  data : σ
  tasks : List (Task κ L σ ι)
  queue : L → List ℕ

namespace Pool

/-- Write the data and a task. -/
def put (i : ℕ) (t : Task κ L σ ι) (data : σ) (s : Pool κ L σ ι) : Pool κ L σ ι :=
  { s with data, tasks := s.tasks.set i t }

/-- Add a task. -/
def add (t : Task κ L σ ι) (s : Pool κ L σ ι) : Pool κ L σ ι :=
  { s with tasks := s.tasks ++ [t] }

/-- Give a task input. -/
def input (i : ℕ) (x : ι) (s : Pool κ L σ ι) : Pool κ L σ ι :=
  match s.tasks[i]? with
  | some t => s.put i { t with inbox := t.inbox ++ [x] } s.data
  | none => s

variable [DecidableEq L] (body : κ → Prog κ L σ ι)

/-- No holder of `l` is in the way. -/
def free (l : L) (mode : Access) (s : Pool κ L σ ι) : Bool := s.tasks.all (·.admits l mode)

/-- One step of a task, if it can make one. -/
def step (s : Pool κ L σ ι) (i : ℕ) : Option (Pool κ L σ ι) :=
  match s.tasks[i]? with
  | none => none
  | some t =>
      match t.prog with
      | .done => none
      | .restart => some (s.put i { t with prog := body t.kind } s.data)
      | .acquire l mode next =>
          if i ∈ s.queue l then
            if (s.queue l).head? = some i ∧ s.free l mode then
              some { s.put i { t with prog := next, held := (l, mode) :: t.held } s.data with
                queue := Function.update s.queue l (s.queue l).tail }
            else none
          else some { s with queue := Function.update s.queue l (s.queue l ++ [i]) }
      | .release l next =>
          some (s.put i { t with prog := next, held := t.held.filter fun h => h.1 ≠ l } s.data)
      | .act f next => some (s.put i { t with prog := next s.data } (f s.data))
      | .recv next =>
          match t.inbox with
          | [] => none
          | x :: inbox => some (s.put i { t with prog := next x, inbox } s.data)
      | .spawn kind next =>
          some ((s.put i { t with prog := next } s.data).add (Task.new body kind))

/-- What a step of a task does. -/
inductive Moves (s : Pool κ L σ ι) (i : ℕ) (t : Task κ L σ ι) : Pool κ L σ ι → Prop where
  | restart (hp : t.prog = .restart) :
      Moves s i t (s.put i { t with prog := body t.kind } s.data)
  | ask {l : L} {mode : Access} {next : Prog κ L σ ι} (hp : t.prog = .acquire l mode next)
      (hi : i ∉ s.queue l) :
      Moves s i t { s with queue := Function.update s.queue l (s.queue l ++ [i]) }
  | grant {l : L} {mode : Access} {next : Prog κ L σ ι} {rest : List ℕ}
      (hp : t.prog = .acquire l mode next) (hq : s.queue l = i :: rest)
      (hfree : s.free l mode = true) :
      Moves s i t
        { s.put i { t with prog := next, held := (l, mode) :: t.held } s.data with
          queue := Function.update s.queue l rest }
  | release {l : L} {next : Prog κ L σ ι} (hp : t.prog = .release l next) :
      Moves s i t
        (s.put i { t with prog := next, held := t.held.filter fun h => h.1 ≠ l } s.data)
  | act {f : σ → σ} {next : σ → Prog κ L σ ι} (hp : t.prog = .act f next) :
      Moves s i t (s.put i { t with prog := next s.data } (f s.data))
  | recv {next : ι → Prog κ L σ ι} {x : ι} {inbox : List ι} (hp : t.prog = .recv next)
      (hx : t.inbox = x :: inbox) :
      Moves s i t (s.put i { t with prog := next x, inbox } s.data)
  | spawn {kind : κ} {next : Prog κ L σ ι} (hp : t.prog = .spawn kind next) :
      Moves s i t ((s.put i { t with prog := next } s.data).add (Task.new body kind))

theorem step_moves {s s' : Pool κ L σ ι} {i : ℕ} (h : s.step body i = some s') :
    ∃ t, s.tasks[i]? = some t ∧ Moves body s i t s' := by
  unfold step at h
  split at h
  · cases h
  next t ht =>
  refine ⟨t, ht, ?_⟩
  split at h
  · cases h
  · next hp =>
      cases h
      exact .restart hp
  · next l mode next hp =>
      split at h
      · split at h
        · next hgrant =>
            obtain ⟨hhead, hfree⟩ := hgrant
            obtain ⟨rest, hq⟩ := List.head?_eq_some_iff.mp hhead
            cases h
            rw [hq, List.tail_cons]
            exact .grant hp hq hfree
        · cases h
      · next hi =>
          cases h
          exact .ask hp hi
  · next l next hp =>
      cases h
      exact .release hp
  · next f next hp =>
      cases h
      exact .act hp
  · next next hp =>
      split at h
      · cases h
      · next x inbox hx =>
          cases h
          exact .recv hp hx
  · next kind next hp =>
      cases h
      exact .spawn hp

/-! ## Queues -/

section Queue

variable {queue : L → List ℕ} {l : L} {i : ℕ}

theorem mem_push {k : L} {j : ℕ} (h : j ∈ Function.update queue l (queue l ++ [i]) k) :
    j ∈ queue k ∨ j = i ∧ k = l := by
  by_cases hk : k = l
  · subst hk
    rw [Function.update_self] at h
    rcases List.mem_append.mp h with h | h
    · exact Or.inl h
    · exact Or.inr ⟨List.mem_singleton.mp h, rfl⟩
  · rw [Function.update_of_ne hk] at h
    exact Or.inl h

theorem nodup_push (h : ∀ k, (queue k).Nodup) (hi : i ∉ queue l) (k : L) :
    (Function.update queue l (queue l ++ [i]) k).Nodup := by
  by_cases hk : k = l
  · subst hk
    rw [Function.update_self]
    exact (h k).append (List.nodup_singleton i) (by simpa using hi)
  · rw [Function.update_of_ne hk]
    exact h k

theorem sublist_pop {rest : List ℕ} (hq : queue l = i :: rest) (k : L) :
    (Function.update queue l rest k).Sublist (queue k) := by
  by_cases hk : k = l
  · subst hk
    rw [Function.update_self, hq]
    exact List.sublist_cons_self i rest
  · rw [Function.update_of_ne hk]

end Queue

/-! ## Sound pools -/

/-- The task of a queue entry asks for that lock, no task is queued twice for it, and every
    task is ordered. -/
structure Sound (D : Discipline κ L) (s : Pool κ L σ ι) : Prop where
  nodup : ∀ l, (s.queue l).Nodup
  queued : ∀ l, ∀ i ∈ s.queue l, ∃ t mode next, s.tasks[i]? = some t ∧
    t.prog = .acquire l mode next
  ordered : ∀ (i : ℕ) (t : Task κ L σ ι), s.tasks[i]? = some t → t.Ordered D

section Sound

variable {D : Discipline κ L} {s s' : Pool κ L σ ι} {i : ℕ}
  {t t' : Task κ L σ ι}

/-- A task that is not waiting for a lock is in no queue. -/
theorem Sound.not_queued (hs : Sound D s) (ht : s.tasks[i]? = some t)
    (hp : ∀ l mode next, t.prog ≠ .acquire l mode next) (l : L) : i ∉ s.queue l := by
  intro hi
  obtain ⟨u, mode, next, hu, hacquire⟩ := hs.queued l i hi
  rw [ht] at hu
  cases hu
  exact hp l mode next hacquire

/-- Replacing a task, and dropping queue entries. -/
theorem Sound.replace (hs : Sound D s) (ht : s.tasks[i]? = some t)
    (htasks : s'.tasks = s.tasks.set i t') (hsub : ∀ l, (s'.queue l).Sublist (s.queue l))
    (hqueued : ∀ l, i ∈ s'.queue l → ∃ mode next, t'.prog = .acquire l mode next)
    (ht' : t'.Ordered D) : Sound D s' where
  nodup l := (hs.nodup l).sublist (hsub l)
  queued l j hj := by
    by_cases hji : j = i
    · subst hji
      obtain ⟨mode, next, hp⟩ := hqueued l hj
      refine ⟨t', mode, next, ?_, hp⟩
      rw [htasks]
      exact List.getElem?_set_self (List.getElem?_eq_some_iff.mp ht).1
    · obtain ⟨u, mode, next, hu, hp⟩ := hs.queued l j ((hsub l).subset hj)
      refine ⟨u, mode, next, ?_, hp⟩
      rw [htasks, List.getElem?_set_ne (Ne.symm hji)]
      exact hu
  ordered j u hu := by
    rw [htasks] at hu
    rcases List.getElem?_set_cases hu with ⟨-, rfl⟩ | ⟨-, hu⟩
    · exact ht'
    · exact hs.ordered j u hu

/-- A step of a task that is in no queue. -/
theorem Sound.put (hs : Sound D s) (ht : s.tasks[i]? = some t)
    (hp : ∀ l mode next, t.prog ≠ .acquire l mode next) (data : σ)
    (ht' : Prog.Ordered D t'.kind t'.held t'.prog) :
    Sound D (s.put i t' data) :=
  hs.replace ht rfl (fun _ => List.Sublist.refl _)
    (fun l hi => absurd hi (hs.not_queued ht hp l)) (Or.inl ht')

theorem Sound.add (hs : Sound D s) (ht : t.Ordered D) :
    Sound D (s.add t) where
  nodup := hs.nodup
  queued l i hi := by
    obtain ⟨u, mode, next, hu, hp⟩ := hs.queued l i hi
    exact ⟨u, mode, next, List.getElem?_append_some hu _, hp⟩
  ordered i u hu := by
    rcases List.getElem?_snoc_cases hu with hu | rfl
    · exact hs.ordered i u hu
    · exact ht

theorem Sound.input (hs : Sound D s) (i : ℕ) (x : ι) :
    Sound D (s.input i x) := by
  unfold Pool.input
  split
  · next t ht =>
      refine hs.replace ht rfl (fun _ => List.Sublist.refl _) (fun l hi => ?_)
        (hs.ordered i t ht)
      obtain ⟨u, mode, next, hu, hp⟩ := hs.queued l i hi
      rw [ht] at hu
      cases hu
      exact ⟨mode, next, hp⟩
  · exact hs

variable {body : κ → Prog κ L σ ι}

/-- The task that got a lock is in no queue. -/
theorem Sound.not_mem_pop (hs : Sound D s) (ht : s.tasks[i]? = some t) {l : L}
    {mode : Access} {next : Prog κ L σ ι} (hp : t.prog = .acquire l mode next) {rest : List ℕ}
    (hq : s.queue l = i :: rest) (k : L) : i ∉ Function.update s.queue l rest k := by
  intro hi
  by_cases hk : k = l
  · subst hk
    rw [Function.update_self] at hi
    have hnodup := hs.nodup k
    rw [hq] at hnodup
    exact (List.nodup_cons.mp hnodup).1 hi
  · rw [Function.update_of_ne hk] at hi
    obtain ⟨u, mode', next', hu, hp'⟩ := hs.queued k i hi
    rw [ht] at hu
    cases hu
    rw [hp] at hp'
    cases hp'
    exact hk rfl

/-- Getting a lock keeps the discipline of the task. -/
theorem ordered_grant {l : L} {mode : Access} {next : Prog κ L σ ι}
    (h : t.Ordered D) (hp : t.prog = .acquire l mode next) :
    Task.Ordered D { t with prog := next, held := (l, mode) :: t.held } := by
  have hprog := h.prog hp rfl
  generalize hheld : t.held = held at hprog ⊢
  cases hprog with
  | acquire hrank hnext => exact Or.inl hnext
  | acquireRecv hkind hl hnext => exact Or.inr ⟨l, mode, _, hkind, hl, rfl, rfl, hnext⟩

/-- A step asks for a lock, gets one, or goes on in the program. -/
theorem Moves.shape (hbody : ∀ kind, Prog.Ordered D kind [] (body kind))
    (hordered : t.Ordered D) (h : Moves body s i t s') :
    (∃ l mode next, t.prog = .acquire l mode next ∧ i ∉ s.queue l ∧
      s' = { s with queue := Function.update s.queue l (s.queue l ++ [i]) }) ∨
    (∃ l mode next rest, t.prog = .acquire l mode next ∧ s.queue l = i :: rest ∧
      s' = { s.put i { t with prog := next, held := (l, mode) :: t.held } s.data with
        queue := Function.update s.queue l rest }) ∨
    ∃ t' data, (∀ l mode next, t.prog ≠ .acquire l mode next) ∧
      Prog.Ordered D t'.kind t'.held t'.prog ∧
      (s' = s.put i t' data ∨ ∃ kind, s' = (s.put i t' data).add (Task.new body kind)) := by
  cases h with
  | restart hp =>
      refine Or.inr (Or.inr ⟨_, _, by simp [hp], ?_, Or.inl rfl⟩)
      show Prog.Ordered D t.kind t.held (body t.kind)
      rw [(hordered.prog hp rfl).held_eq_nil rfl]
      exact hbody t.kind
  | ask hp hi => exact Or.inl ⟨_, _, _, hp, hi, rfl⟩
  | grant hp hq hfree => exact Or.inr (Or.inl ⟨_, _, _, _, hp, hq, rfl⟩)
  | release hp =>
      have hnext := (hordered.prog hp rfl).of_release
      exact Or.inr (Or.inr ⟨_, _, by simp [hp], hnext, Or.inl rfl⟩)
  | act hp =>
      have hnext := (hordered.prog hp rfl).of_act s.data
      exact Or.inr (Or.inr ⟨_, _, by simp [hp], hnext, Or.inl rfl⟩)
  | recv hp hx =>
      refine Or.inr (Or.inr ⟨_, _, by simp [hp], ?_, Or.inl rfl⟩)
      rcases hordered with hprog | ⟨l, mode, next', -, -, hheld, hrecv, hnext⟩
      · rw [hp] at hprog
        exact hprog.of_recv _
      · rw [hp] at hrecv
        cases hrecv
        show Prog.Ordered D t.kind t.held _
        rw [hheld]
        exact hnext _
  | spawn hp =>
      have hnext := (hordered.prog hp rfl).of_spawn
      exact Or.inr (Or.inr ⟨_, _, by simp [hp], hnext, Or.inr ⟨_, rfl⟩⟩)

theorem Sound.step (hbody : ∀ kind, Prog.Ordered D kind [] (body kind))
    (hs : Sound D s) (h : s.step body i = some s') : Sound D s' := by
  obtain ⟨t, ht, hmoves⟩ := step_moves body h
  have hordered := hs.ordered i t ht
  rcases hmoves.shape hbody hordered with
    ⟨l, mode, next, hp, hi, rfl⟩ | ⟨l, mode, next, rest, hp, hq, rfl⟩ | ⟨t', data, hp, ht', hput⟩
  · refine ⟨nodup_push hs.nodup hi, fun k j hj => ?_, hs.ordered⟩
    rcases mem_push hj with hj | ⟨rfl, rfl⟩
    · exact hs.queued k j hj
    · exact ⟨t, mode, next, ht, hp⟩
  · refine hs.replace ht rfl (sublist_pop hq) (fun k hi => ?_) (ordered_grant hordered hp)
    exact absurd hi (hs.not_mem_pop ht hp hq k)
  · have hsound := hs.put ht hp data ht'
    rcases hput with rfl | ⟨kind, rfl⟩
    · exact hsound
    · exact hsound.add (Or.inl (hbody kind))

/-! ## Who waits for whom -/

variable (body)

def CanStep (s : Pool κ L σ ι) (i : ℕ) : Prop := (s.step body i).isSome = true

instance (s : Pool κ L σ ι) (i : ℕ) : Decidable (s.CanStep body i) :=
  inferInstanceAs (Decidable (_ = true))

theorem CanStep.lt_length (h : s.CanStep body i) : i < s.tasks.length := by
  obtain ⟨s', hstep⟩ := Option.isSome_iff_exists.mp h
  obtain ⟨t, ht, -⟩ := step_moves body hstep
  exact (List.getElem?_eq_some_iff.mp ht).1

/-- The task waits for input that is not there. -/
def Stuck (s : Pool κ L σ ι) (i : ℕ) : Prop := ∃ t, s.tasks[i]? = some t ∧ t.stuck = true

/-- A queued task waits for those before it in the queue, and for the holders in its way. -/
inductive WaitsFor (s : Pool κ L σ ι) : ℕ → ℕ → Prop where
  | ahead {l : L} {i j : ℕ} {pre post : List ℕ} (hq : s.queue l = pre ++ i :: post)
      (hj : j ∈ pre) : WaitsFor s i j
  | holder {l : L} {i j : ℕ} {t u : Task κ L σ ι} {mode : Access} {next : Prog κ L σ ι}
      (hi : i ∈ s.queue l) (ht : s.tasks[i]? = some t) (hp : t.prog = .acquire l mode next)
      (hu : s.tasks[j]? = some u) (hno : u.admits l mode = false) : WaitsFor s i j

/-- Who asks for a lock waits for the task that writes under it. -/
theorem Sound.waitsFor_writer (hs : Sound D s) {l : L} (hi : i ∈ s.queue l) {j : ℕ}
    {u : Task κ L σ ι} (hu : s.tasks[j]? = some u) (hl : (l, .write) ∈ u.held) :
    s.WaitsFor i j := by
  obtain ⟨t, mode, next, ht, hp⟩ := hs.queued l i hi
  refine .holder hi ht hp hu (List.all_eq_false.mpr ⟨(l, .write), hl, ?_⟩)
  simp [Access.shares]

/-- A task that is not done can make a step, is stuck, or is queued. -/
theorem step_or_waits (ht : s.tasks[i]? = some t) (hdone : t.prog.isDone = false) :
    s.CanStep body i ∨ s.Stuck i ∨
      ∃ l mode next, t.prog = .acquire l mode next ∧ i ∈ s.queue l := by
  unfold CanStep Pool.step
  rw [ht]
  simp only
  cases hp : t.prog with
  | done =>
      rw [hp] at hdone
      cases hdone
  | acquire l mode next =>
      by_cases hi : i ∈ s.queue l
      · exact Or.inr (Or.inr ⟨l, mode, next, rfl, hi⟩)
      · simp [hi]
  | recv next =>
      cases hx : t.inbox with
      | nil => exact Or.inr (Or.inl ⟨t, ht, by simp [Task.stuck, hp, hx, Prog.isRecv]⟩)
      | cons x inbox => exact Or.inl rfl
  | _ => exact Or.inl rfl

/-- The first in a queue gets the lock once no holder is in the way. -/
theorem canStep_of_free (ht : s.tasks[i]? = some t) {l : L} {mode : Access}
    {next : Prog κ L σ ι} (hp : t.prog = .acquire l mode next) {rest : List ℕ}
    (hq : s.queue l = i :: rest) (hfree : s.free l mode = true) : s.CanStep body i := by
  unfold CanStep Pool.step
  rw [ht]
  simp [hp, hq, hfree]

theorem holds_of_not_admits {l : L} {mode : Access} (h : t.admits l mode = false) :
    ∃ x ∈ t.held, x.1 = l := by
  unfold Task.admits at h
  obtain ⟨x, hx, hno⟩ := List.all_eq_false.mp h
  refine ⟨x, hx, ?_⟩
  by_contra hne
  simp [hne] at hno

/-- Locks are asked for in the order of their ranks, so what a queued task waits for ends with
    a task that can make a step or is stuck. -/
theorem Sound.chain_of_queued (hs : Sound D s) {N : ℕ} (hN : ∀ l, D.rank l < N)
    (n : ℕ) : ∀ l i, i ∈ s.queue l → N ≤ D.rank l + n →
      ∃ j, Relation.ReflTransGen s.WaitsFor i j ∧ (s.CanStep body j ∨ s.Stuck j) := by
  induction n with
  | zero =>
      intro l i hi hle
      have hlt := hN l
      omega
  | succ n ih =>
      intro l i hi hle
      -- the task waits for the first one in the queue, or is that one
      obtain ⟨j, rest, hq⟩ := List.exists_cons_of_ne_nil (List.ne_nil_of_mem hi)
      have hfirst : Relation.ReflTransGen s.WaitsFor i j := by
        rw [hq] at hi
        rcases List.mem_cons.mp hi with rfl | hi
        · exact .refl
        · obtain ⟨pre, post, rfl⟩ := List.append_of_mem hi
          have hsplit : s.queue l = (j :: pre) ++ i :: post := hq
          exact .single (.ahead hsplit List.mem_cons_self)
      have hj : j ∈ s.queue l := hq ▸ List.mem_cons_self
      obtain ⟨t, mode, next, ht, hp⟩ := hs.queued l j hj
      by_cases hfree : s.free l mode = true
      · exact ⟨j, hfirst, Or.inl (canStep_of_free body ht hp hq hfree)⟩
      -- a holder is in its way, and it waits for a lock of higher rank if it waits at all
      obtain ⟨u, hmem, hno⟩ := List.all_eq_false.mp (Bool.not_eq_true _ ▸ hfree)
      obtain ⟨k, hu⟩ := List.mem_iff_getElem?.mp hmem
      have hno := Bool.not_eq_true _ ▸ hno
      obtain ⟨x, hx, rfl⟩ := holds_of_not_admits hno
      have hk := hfirst.tail (.holder hj ht hp hu hno)
      have hdone : u.prog.isDone = false := by
        cases hdone : u.prog with
        | done =>
            rw [((hs.ordered k u hu).prog hdone rfl).held_eq_nil rfl] at hx
            cases hx
        | _ => rfl
      rcases step_or_waits body hu hdone with hstep | hstuck | ⟨l', mode', next', hp', hk'⟩
      · exact ⟨k, hk, Or.inl hstep⟩
      · exact ⟨k, hk, Or.inr hstuck⟩
      · have hlt := ((hs.ordered k u hu).prog hp' rfl).rank_lt x hx
        obtain ⟨m, hm, hend⟩ := ih l' k hk' (by omega)
        exact ⟨m, hk.trans hm, hend⟩

/-- **Only missing input stops a sound pool.** Every unfinished task waits, maybe through
    others, for a task that can make a step or is stuck, if it is not one itself. -/
theorem Sound.chain (hs : Sound D s) {N : ℕ} (hN : ∀ l, D.rank l < N)
    (ht : s.tasks[i]? = some t) (hdone : t.prog.isDone = false) :
    ∃ j, Relation.ReflTransGen s.WaitsFor i j ∧ (s.CanStep body j ∨ s.Stuck j) := by
  rcases step_or_waits body ht hdone with hstep | hstuck | ⟨l, mode, next, hp, hi⟩
  · exact ⟨i, .refl, Or.inl hstep⟩
  · exact ⟨i, .refl, Or.inr hstuck⟩
  · exact hs.chain_of_queued body hN N l i hi (by omega)

/-! ## Keeping clear of stuck tasks -/

/-- No task waits for a lock that a stuck task holds. -/
def Clear (s : Pool κ L σ ι) : Prop :=
  ∀ l, ∀ i ∈ s.queue l, ∀ (j : ℕ) (t : Task κ L σ ι), s.tasks[j]? = some t →
    t.holds l = true → t.stuck = false

/-- The task asks for an input lock only while no holder of it is stuck, and takes one under
    which it would be stuck at once only if no other task is in the queue. -/
def careful (inputLock : L → Bool) (s : Pool κ L σ ι) (i : ℕ) : Bool :=
  match s.tasks[i]? with
  | some t =>
      match t.prog with
      | .acquire l _ next =>
          !inputLock l ||
            if i ∈ s.queue l then !(next.isRecv && t.inbox.isEmpty) || s.queue l = [i]
            else s.tasks.all fun u => !(u.holds l && u.stuck)
      | _ => true
  | none => true

theorem not_stuck_of_ordered (h : Prog.Ordered D t.kind t.held t.prog) {l : L}
    (hl : t.holds l = true) : t.stuck = false := by
  by_contra hstuck
  have hrecv : t.prog.isRecv = true := by
    simp only [Task.stuck, Bool.not_eq_false, Bool.and_eq_true] at hstuck
    exact hstuck.1
  have hheld : t.held = [] := by
    apply h.held_eq_nil
    cases hp : t.prog with
    | recv next => rfl
    | _ =>
        rw [hp] at hrecv
        cases hrecv
  simp [Task.holds, hheld] at hl

/-- A stuck task holds no lock but an input lock. -/
theorem inputLock_of_stuck (h : t.Ordered D) {l : L} (hl : t.holds l = true)
    (hstuck : t.stuck = true) : D.inputLock l = true := by
  rcases h with h | ⟨k, mode, next, -, hk, hheld, -, -⟩
  · rw [not_stuck_of_ordered h hl] at hstuck
    cases hstuck
  · have hkl : k = l := by simpa [Task.holds, hheld] using hl
    exact hkl ▸ hk

theorem Clear.replace (hc : s.Clear) (htasks : s'.tasks = s.tasks.set i t')
    (hsub : ∀ l, (s'.queue l).Sublist (s.queue l))
    (ht' : ∀ l, ∀ k ∈ s'.queue l, t'.holds l = true → t'.stuck = false) : s'.Clear := by
  intro l k hk j u hu hl
  rw [htasks] at hu
  rcases List.getElem?_set_cases hu with ⟨-, rfl⟩ | ⟨-, hu⟩
  · exact ht' l k hk hl
  · exact hc l k ((hsub l).subset hk) j u hu hl

theorem Clear.add (hc : s.Clear) (hheld : t.held = []) : (s.add t).Clear := by
  intro l k hk j u hu hl
  rcases List.getElem?_snoc_cases hu with hu | rfl
  · exact hc l k hk j u hu hl
  · rw [Task.holds, hheld] at hl
    cases hl

theorem Clear.input (hc : s.Clear) (i : ℕ) (x : ι) : (s.input i x).Clear := by
  unfold Pool.input
  split
  · refine hc.replace rfl (fun _ => List.Sublist.refl _) fun l k hk hl => ?_
    simp [Task.stuck]
  · exact hc

variable {body} in
theorem Clear.step (hbody : ∀ kind, Prog.Ordered D kind [] (body kind))
    (hs : Sound D s) (hc : s.Clear) (hcareful : s.careful D.inputLock i = true)
    (h : s.step body i = some s') : s'.Clear := by
  obtain ⟨t, ht, hmoves⟩ := step_moves body h
  have hordered := hs.ordered i t ht
  unfold careful at hcareful
  rw [ht] at hcareful
  rcases hmoves.shape hbody hordered with
    ⟨l, mode, next, hp, hi, rfl⟩ | ⟨l, mode, next, rest, hp, hq, rfl⟩ | ⟨t', data, hp, ht', hput⟩
  · simp only [hp, hi, if_false] at hcareful
    intro k j hj m u hu hl
    rcases mem_push hj with hj | ⟨rfl, rfl⟩
    · exact hc k j hj m u hu hl
    · by_contra hstuck
      rw [Bool.not_eq_false] at hstuck
      rw [inputLock_of_stuck (hs.ordered m u hu) hl hstuck, Bool.not_true, Bool.false_or,
        List.all_eq_true] at hcareful
      have hno := hcareful u (List.mem_of_getElem? hu)
      rw [hl, hstuck] at hno
      cases hno
  · refine hc.replace rfl (sublist_pop hq) fun k j hj hl => ?_
    rcases ordered_grant hordered hp with hprog | ⟨l', mode', next', -, hl', hheld, hrecv, -⟩
    · exact not_stuck_of_ordered hprog hl
    · -- it waits for input under the lock it got, so the queue of that lock is empty now
      by_contra hstuck
      injection hheld with hhead hnil
      cases hhead
      have hkl : l = k := by simpa [Task.holds, hnil] using hl
      subst hkl
      simp only at hrecv
      have hempty : t.inbox.isEmpty = true := by
        simpa [Task.stuck, hrecv, Prog.isRecv] using hstuck
      have hone : s.queue l = [i] := by
        simpa [hp, hq, hl', hrecv, Prog.isRecv, hempty] using hcareful
      rw [hq] at hone
      injection hone with _ hrest
      change j ∈ Function.update s.queue l rest l at hj
      rw [Function.update_self, hrest] at hj
      cases hj
  · have hclear : (s.put i t' data).Clear :=
      hc.replace rfl (fun _ => List.Sublist.refl _) fun l k hk hl => not_stuck_of_ordered ht' hl
    rcases hput with rfl | ⟨kind, rfl⟩
    · exact hclear
    · exact hclear.add rfl

/-- Where no task waits for a stuck one, every unfinished task that takes no input can make a
    step, or waits, maybe through others, for one that can. -/
theorem Sound.progress (hs : Sound D s) (hc : s.Clear) {N : ℕ}
    (hN : ∀ l, D.rank l < N) (ht : s.tasks[i]? = some t) (hdone : t.prog.isDone = false)
    (hkind : D.takesInput t.kind = false) :
    ∃ j, Relation.ReflTransGen s.WaitsFor i j ∧ s.CanStep body j := by
  obtain ⟨j, hj, hstep | ⟨u, hu, hstuck⟩⟩ := hs.chain body hN ht hdone
  · exact ⟨j, hj, hstep⟩
  exfalso
  rcases Relation.ReflTransGen.cases_tail hj with rfl | ⟨k, -, hwaits⟩
  · rw [ht] at hu
    cases hu
    rw [(hs.ordered _ _ ht).not_stuck hkind] at hstuck
    cases hstuck
  · cases hwaits with
    | @ahead l _ _ pre post hq hmem =>
        have hqueued : j ∈ s.queue l := hq ▸ List.mem_append_left _ hmem
        obtain ⟨v, mode, next, hv, hp⟩ := hs.queued l j hqueued
        rw [hu] at hv
        cases hv
        simp [Task.stuck, hp, Prog.isRecv] at hstuck
    | holder hi htk hp huj hno =>
        rw [hu] at huj
        cases huj
        obtain ⟨x, hx, rfl⟩ := holds_of_not_admits hno
        have hholds : u.holds x.1 = true := List.any_eq_true.mpr ⟨x, hx, by simp⟩
        rw [hc _ k hi j u hu hholds] at hstuck
        cases hstuck

/-! ## Jams -/

variable {body}

/-- What a step leaves of the other tasks, and what it adds. -/
theorem step_tasks (h : s.step body i = some s') {k : ℕ} (hk : k ≠ i) :
    (∀ u, s.tasks[k]? = some u → s'.tasks[k]? = some u) ∧
      ∀ u, s'.tasks[k]? = some u → s.tasks[k]? = some u ∨ ∃ kind, u = Task.new body kind := by
  obtain ⟨t, ht, hmoves⟩ := step_moves body h
  have hput : ∀ t' : Task κ L σ ι, (s.tasks.set i t')[k]? = s.tasks[k]? :=
    fun t' => List.getElem?_set_ne (Ne.symm hk)
  cases hmoves with
  | ask hp hi => exact ⟨fun u hu => hu, fun u hu => Or.inl hu⟩
  | spawn hp =>
      refine ⟨fun u hu => ?_, fun u hu => ?_⟩
      · rw [← hput] at hu
        exact List.getElem?_append_some hu _
      · rcases List.getElem?_snoc_cases hu with hu | rfl
        · exact Or.inl ((hput _).symm.trans hu)
        · exact Or.inr ⟨_, rfl⟩
  | _ => exact ⟨fun u hu => (hput _).trans hu, fun u hu => Or.inl ((hput _).symm.trans hu)⟩

theorem step_kind (h : s.step body i = some s') (ht : s.tasks[i]? = some t)
    (ht' : s'.tasks[i]? = some t') : t'.kind = t.kind := by
  obtain ⟨u, hu, hmoves⟩ := step_moves body h
  obtain rfl : t = u := Option.some.inj (ht.symm.trans hu)
  have hlt := (List.getElem?_eq_some_iff.mp ht).1
  have hput : ∀ v : Task κ L σ ι, (s.tasks.set i v)[i]? = some v :=
    fun v => List.getElem?_set_self hlt
  cases hmoves with
  | ask hp hi =>
      obtain rfl : t = t' := Option.some.inj (ht.symm.trans ht')
      rfl
  | spawn hp =>
      rw [add, put, List.getElem?_append_left (by rwa [List.length_set]), hput] at ht'
      cases ht'
      rfl
  | _ =>
      cases (hput _).symm.trans ht'
      rfl

/-- The other tasks stay in their queues. -/
theorem step_queue (h : s.step body i = some s') {k : ℕ} (hk : k ≠ i) {l : L}
    (hq : k ∈ s.queue l) : k ∈ s'.queue l := by
  obtain ⟨t, ht, hmoves⟩ := step_moves body h
  cases hmoves with
  | @ask l' _ _ hp hi =>
      show k ∈ Function.update s.queue l' (s.queue l' ++ [i]) l
      by_cases hl : l = l'
      · subst hl
        rw [Function.update_self]
        exact List.mem_append_left _ hq
      · rw [Function.update_of_ne hl]
        exact hq
  | @grant l' _ _ rest hp hfirst hfree =>
      show k ∈ Function.update s.queue l' rest l
      by_cases hl : l = l'
      · subst hl
        rw [Function.update_self]
        rw [hfirst] at hq
        exact (List.mem_cons.mp hq).resolve_left hk
      · rw [Function.update_of_ne hl]
        exact hq
  | _ => exact hq

theorem not_free_of_writes (ht : s.tasks[i]? = some t) {l : L} (hl : (l, .write) ∈ t.held)
    (mode : Access) : s.free l mode = false := by
  refine List.all_eq_false.mpr ⟨t, List.mem_of_getElem? ht, ?_⟩
  rw [Bool.not_eq_true]
  exact List.all_eq_false.mpr ⟨(l, .write), hl, by simp [Access.shares]⟩

/-- Task `r` is stuck and writes under `l`, and task `j`, which writes under `k`, has asked
    for `l`. -/
structure Jam (l k : L) (r j : ℕ) (s : Pool κ L σ ι) : Prop where
  holder : ∃ t, s.tasks[r]? = some t ∧ t.stuck = true ∧ (l, .write) ∈ t.held
  waiter : ∃ u mode next, s.tasks[j]? = some u ∧ u.prog = .acquire l mode next ∧
    (k, .write) ∈ u.held
  queued : j ∈ s.queue l

section Jam

variable {l k : L} {r j : ℕ}

/-- Nobody gets the lock that the waiting task writes under. -/
theorem Jam.not_free (hjam : s.Jam l k r j) (mode : Access) : s.free k mode = false := by
  obtain ⟨u, -, -, hu, -, hwrites⟩ := hjam.waiter
  exact not_free_of_writes hu hwrites mode

/-- A jam lasts until its stuck task gets input. -/
theorem Jam.step (hjam : s.Jam l k r j) (h : s.step body i = some s') : s'.Jam l k r j := by
  obtain ⟨t, ht, hstuck, hwrites⟩ := hjam.holder
  obtain ⟨u, mode, next, hu, hp, hheld⟩ := hjam.waiter
  obtain ⟨v, hv, hmoves⟩ := step_moves body h
  have hr : r ≠ i := by
    rintro rfl
    obtain rfl : t = v := Option.some.inj (ht.symm.trans hv)
    cases hmoves with
    | recv hp' hx => simp [Task.stuck, hx] at hstuck
    | _ => simp_all [Task.stuck, Prog.isRecv]
  have hj : j ≠ i := by
    rintro rfl
    obtain rfl : u = v := Option.some.inj (hu.symm.trans hv)
    cases hmoves with
    | ask hp' hi =>
        rw [hp] at hp'
        cases hp'
        exact hi hjam.queued
    | grant hp' hq hfree =>
        rw [hp] at hp'
        cases hp'
        rw [not_free_of_writes ht hwrites] at hfree
        cases hfree
    | _ => simp_all
  exact ⟨⟨t, (step_tasks h hr).1 t ht, hstuck, hwrites⟩,
    ⟨u, mode, next, (step_tasks h hj).1 u hu, hp, hheld⟩, step_queue h hj hjam.queued⟩

omit [DecidableEq L] in
theorem Jam.add (hjam : s.Jam l k r j) (v : Task κ L σ ι) : (s.add v).Jam l k r j := by
  obtain ⟨t, ht, hstuck⟩ := hjam.holder
  obtain ⟨u, mode, next, hu, hp⟩ := hjam.waiter
  exact ⟨⟨t, List.getElem?_append_some ht _, hstuck⟩,
    ⟨u, mode, next, List.getElem?_append_some hu _, hp⟩, hjam.queued⟩

omit [DecidableEq L] in
/-- Input changes the inbox of its task only. -/
theorem input_tasks (s : Pool κ L σ ι) (i : ℕ) (x : ι) (m : ℕ) :
    (s.input i x).tasks[m]? =
      (s.tasks[m]?).map fun t => if m = i then { t with inbox := t.inbox ++ [x] } else t := by
  unfold Pool.input
  split
  · next t ht =>
      by_cases hm : m = i
      · subst hm
        simp only [put, if_true]
        rw [List.getElem?_set_self (List.getElem?_eq_some_iff.mp ht).1, ht, Option.map_some]
      · simp only [put, hm, if_false, Option.map_id']
        exact List.getElem?_set_ne (Ne.symm hm)
  · next hnone =>
      by_cases hm : m = i
      · subst hm
        rw [hnone, Option.map_none]
      · simp only [hm, if_false, Option.map_id']

omit [DecidableEq L] in
theorem Jam.input (hjam : s.Jam l k r j) (hi : r ≠ i) (x : ι) :
    (s.input i x).Jam l k r j := by
  obtain ⟨t, ht, hstuck⟩ := hjam.holder
  obtain ⟨u, mode, next, hu, hp, hheld⟩ := hjam.waiter
  refine ⟨⟨t, ?_, hstuck⟩, ⟨if j = i then { u with inbox := u.inbox ++ [x] } else u, mode, next,
    ?_, ?_, ?_⟩, ?_⟩
  · rw [input_tasks, ht, Option.map_some, if_neg hi]
  · rw [input_tasks, hu, Option.map_some]
  · split <;> exact hp
  · split <;> exact hheld
  · unfold Pool.input
    split <;> exact hjam.queued

end Jam

/-! ## One task alone -/

/-- No lock is asked for, and the other tasks hold none. -/
structure Idle (i : ℕ) (s : Pool κ L σ ι) : Prop where
  queues : ∀ l, s.queue l = []
  others : ∀ j, j ≠ i → ∀ u, s.tasks[j]? = some u → u.held = []

omit [DecidableEq L] in
theorem Idle.put (hidle : s.Idle i) (t' : Task κ L σ ι) (data : σ) : (s.put i t' data).Idle i where
  queues := hidle.queues
  others j hj u hu := by
    rcases List.getElem?_set_cases hu with ⟨hji, -⟩ | ⟨-, hu⟩
    · exact absurd hji hj
    · exact hidle.others j hj u hu

omit [DecidableEq L] in
theorem Idle.add (hidle : s.Idle i) (kind : κ) : (s.add (Task.new body kind)).Idle i where
  queues := hidle.queues
  others j hj u hu := by
    rcases List.getElem?_snoc_cases hu with hu | rfl
    · exact hidle.others j hj u hu
    · rfl

variable (body) in
/-- An idle pool gives the task any lock it asks for, in two steps. -/
theorem Idle.acquire (hidle : s.Idle i) (ht : s.tasks[i]? = some t) {l : L} {mode : Access}
    {next : Prog κ L σ ι} (hp : t.prog = .acquire l mode next) (hl : t.admits l mode = true) :
    ∃ s', s.step body i = some s' ∧
      s'.step body i =
        some (s.put i { t with prog := next, held := (l, mode) :: t.held } s.data) := by
  have hfree : s.free l mode = true := by
    apply List.all_eq_true.mpr
    intro u hu
    obtain ⟨j, hj⟩ := List.mem_iff_getElem?.mp hu
    by_cases hji : j = i
    · subst hji
      obtain rfl : t = u := Option.some.inj (ht.symm.trans hj)
      exact hl
    · rw [Task.admits, hidle.others j hji u hj]
      rfl
  refine ⟨{ s with queue := Function.update s.queue l [i] }, ?_, ?_⟩
  · unfold Pool.step
    simp [ht, hp, hidle.queues]
  · have hqueue : Function.update (Function.update s.queue l [i]) l [] = s.queue := by
      rw [Function.update_idem, Function.update_eq_self_iff]
      exact (hidle.queues l).symm
    have hfree' : Pool.free l mode { s with queue := Function.update s.queue l [i] } = true :=
      hfree
    unfold Pool.step
    simp only [ht, hp, Function.update_self, List.mem_singleton, if_true, List.head?_cons, hfree',
      and_self, List.tail_cons, hqueue]
    rfl

theorem admits_of_rank_lt {l : L} (h : ∀ x ∈ t.held, D.rank x.1 < D.rank l) (mode : Access) :
    t.admits l mode = true := by
  apply List.all_eq_true.mpr
  intro x hx
  simp [D.ne_of_rank_lt (h x hx)]

variable (body) in
/-- `n` steps of the task, one after the other. -/
def steps (i : ℕ) : ℕ → Pool κ L σ ι → Pool κ L σ ι
  | 0, s => s
  | n + 1, s => steps i n ((s.step body i).getD s)

theorem exists_steps {x : σ} (h : s.step body i = some s')
    (hn : ∃ n, (s'.steps body i n).data = x) : ∃ n, (s.steps body i n).data = x := by
  obtain ⟨n, hn⟩ := hn
  refine ⟨n + 1, ?_⟩
  rw [steps, h, Option.getD_some]
  exact hn

/-- In an idle pool the steps of a task, nothing else between them, do what its program does
    alone. -/
theorem Idle.steps_alone (p : Prog κ L σ ι) : ∀ (s : Pool κ L σ ι) (t : Task κ L σ ι),
    s.Idle i → s.tasks[i]? = some t → t.prog = p → Prog.Ordered D t.kind t.held p →
    ∃ n, (s.steps body i n).data = p.alone s.data := by
  induction p with
  | done => exact fun s t _ _ _ _ => ⟨0, rfl⟩
  | restart => exact fun s t _ _ _ _ => ⟨0, rfl⟩
  | recv next ih => exact fun s t _ _ _ _ => ⟨0, rfl⟩
  | acquire l mode next ih =>
      intro s t hidle ht hp hordered
      obtain ⟨s', hask, hgrant⟩ := hidle.acquire body ht hp
        (admits_of_rank_lt hordered.rank_lt mode)
      have hlt := (List.getElem?_eq_some_iff.mp ht).1
      rcases hordered.of_acquire with hnext | ⟨k, rfl⟩
      · exact exists_steps hask (exists_steps hgrant
          (ih _ _ (hidle.put _ _) (List.getElem?_set_self hlt) rfl hnext))
      · exact ⟨0, rfl⟩
  | release l next ih =>
      intro s t hidle ht hp hordered
      have hlt := (List.getElem?_eq_some_iff.mp ht).1
      have hstep : s.step body i = some (s.put i
          { t with prog := next, held := t.held.filter fun h => h.1 ≠ l } s.data) := by
        simp only [Pool.step, ht, hp]
      exact exists_steps hstep
        (ih _ _ (hidle.put _ _) (List.getElem?_set_self hlt) rfl hordered.of_release)
  | act f next ih =>
      intro s t hidle ht hp hordered
      have hlt := (List.getElem?_eq_some_iff.mp ht).1
      have hstep : s.step body i = some (s.put i { t with prog := next s.data } (f s.data)) := by
        simp only [Pool.step, ht, hp]
      exact exists_steps hstep
        (ih s.data _ _ (hidle.put _ _) (List.getElem?_set_self hlt) rfl (hordered.of_act _))
  | spawn kind next ih =>
      intro s t hidle ht hp hordered
      have hlt := (List.getElem?_eq_some_iff.mp ht).1
      have hstep : s.step body i =
          some ((s.put i { t with prog := next } s.data).add (Task.new body kind)) := by
        simp only [Pool.step, ht, hp]
      have hget : ((s.put i { t with prog := next } s.data).add (Task.new body kind)).tasks[i]? =
          some { t with prog := next } := by
        rw [Pool.add, Pool.put, List.getElem?_append_left (by rwa [List.length_set])]
        exact List.getElem?_set_self hlt
      exact exists_steps hstep
        (ih _ _ ((hidle.put _ _).add kind) hget rfl hordered.of_spawn)

end Sound

end Pool

end Locks
