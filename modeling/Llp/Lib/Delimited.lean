/-
  Messages on a stream that arrives in pieces.

  A delimiter takes the first message off the data that has arrived, or finds that it is not all
  there. What it takes does not depend on the data behind. The reader drains each piece that
  arrives and keeps what is left over.

  * `outputs_reader`: however the stream is cut, the reader reads what the stream holds.
  * `read_whole`, `read_cut`: the reader reads the messages that were written, and of a stream that
    stops inside a message those before it.
-/
import Mathlib.Data.List.Forall2
import Llp.Lib.Machine

/-- What takes the first message off the data that has arrived. -/
structure Delimiter (β α : Type) where
  next : List β → Option (α × List β)
  shorter : ∀ {data a rest}, next data = some (a, rest) → rest.length < data.length
  stable : ∀ {data a rest}, next data = some (a, rest) →
    ∀ later, next (data ++ later) = some (a, rest ++ later)

namespace Delimiter

variable {β α : Type} (d : Delimiter β α)

/-! ## Draining -/

/-- The messages that are there, at most the given number, and the data behind them. -/
def drainWith : ℕ → List β → List α × List β
  | 0, data => ([], data)
  | n + 1, data =>
      match d.next data with
      | none => ([], data)
      | some (a, rest) => (a :: (drainWith n rest).1, (drainWith n rest).2)

/-- The messages that are there, and the data behind them. -/
def drain (data : List β) : List α × List β := d.drainWith data.length data

/-- Induction on what is left of some data, message by message. -/
theorem induct {P : List β → Prop} (hnone : ∀ data, d.next data = none → P data)
    (hsome : ∀ data a rest, d.next data = some (a, rest) → P rest → P data) (data : List β) :
    P data := by
  induction hn : data.length using Nat.strongRecOn generalizing data with
  | ind n ih =>
      subst hn
      cases hnext : d.next data with
      | none => exact hnone data hnext
      | some taken =>
          exact hsome data taken.1 taken.2 hnext (ih _ (d.shorter hnext) taken.2 rfl)

/-- There are no more messages than data. -/
theorem drainWith_eq {n : ℕ} {data : List β} (h : data.length ≤ n) :
    d.drainWith n data = d.drain data := by
  have hfuel : ∀ m n, data.length ≤ m → data.length ≤ n →
      d.drainWith m data = d.drainWith n data := by
    induction data using d.induct with
    | hnone data hnext =>
        have hstop : ∀ k, d.drainWith k data = ([], data) := by
          intro k
          cases k with
          | zero => rfl
          | succ k => simp only [drainWith, hnext]
        exact fun m n _ _ => (hstop m).trans (hstop n).symm
    | hsome data a rest hnext ih =>
        intro m n hm hn
        have hshort := d.shorter hnext
        obtain ⟨m, rfl⟩ := Nat.exists_eq_add_one.mpr (show 0 < m by omega)
        obtain ⟨n, rfl⟩ := Nat.exists_eq_add_one.mpr (show 0 < n by omega)
        simp only [drainWith, hnext]
        rw [ih (by omega) m n (by omega) (by omega)]
  exact hfuel n data.length h (Nat.le_refl _)

theorem drain_none {data : List β} (h : d.next data = none) : d.drain data = ([], data) := by
  rw [← d.drainWith_eq (Nat.le_succ data.length), drainWith, h]

theorem drain_some {data rest : List β} {a : α} (h : d.next data = some (a, rest)) :
    d.drain data = (a :: (d.drain rest).1, (d.drain rest).2) := by
  have hshort := d.shorter h
  rw [← d.drainWith_eq (Nat.le_succ data.length), drainWith, h]
  simp only [d.drainWith_eq (Nat.le_of_lt hshort)]

/-- Data that arrives later is drained with what was left over. -/
theorem drain_append (data later : List β) : d.drain (data ++ later) =
    ((d.drain data).1 ++ (d.drain ((d.drain data).2 ++ later)).1,
      (d.drain ((d.drain data).2 ++ later)).2) := by
  induction data using d.induct with
  | hnone data hnext =>
      rw [d.drain_none hnext]
      rfl
  | hsome data a rest hnext ih =>
      rw [d.drain_some hnext, d.drain_some (d.stable hnext later), ih]
      rfl

/-- Nothing more is read of what was left over. -/
theorem drain_rest (data : List β) : d.drain (d.drain data).2 = ([], (d.drain data).2) := by
  induction data using d.induct with
  | hnone data hnext => rw [d.drain_none hnext, d.drain_none hnext]
  | hsome data a rest hnext ih => rw [d.drain_some hnext, ih]

/-! ## The reader -/

/-- The reader: it holds what was left over and reads the messages a piece completes. -/
def reader : Machine (List β) (List β) (List α) where
  step held piece := d.drain (held ++ piece)

/-- **A stream in pieces.** However the stream is cut, the reader reads what it holds. -/
theorem outputs_reader (held : List β) (pieces : List (List β)) (h : d.drain held = ([], held)) :
    (d.reader.outputs held pieces).flatten = (d.drain (held ++ pieces.flatten)).1 ∧
      d.reader.final held pieces = (d.drain (held ++ pieces.flatten)).2 := by
  induction pieces generalizing held with
  | nil =>
      rw [List.flatten_nil, List.append_nil, h]
      exact ⟨rfl, rfl⟩
  | cons piece pieces ih =>
      obtain ⟨houtputs, hfinal⟩ := ih (d.drain (held ++ piece)).2 (d.drain_rest _)
      rw [List.flatten_cons, ← List.append_assoc, d.drain_append]
      refine ⟨?_, hfinal⟩
      rw [Machine.outputs, List.flatten_cons]
      exact congrArg _ houtputs

/-! ## Messages that were written -/

/-- The data is the message and nothing else. -/
def Writes (a : α) (data : List β) : Prop := d.next data = some (a, [])

variable {d}

/-- A message that is not all there is not read. -/
theorem Writes.cut {a : α} {data front : List β} (h : d.Writes a data) (hfront : front <+: data)
    (hne : front ≠ data) : d.next front = none := by
  obtain ⟨rest, rfl⟩ := hfront
  cases hnext : d.next front with
  | none => rfl
  | some taken =>
      -- what follows it would be left over
      have hwhole := d.stable hnext rest
      rw [h] at hwhole
      have hrest : taken.2 ++ rest = [] := (congrArg Prod.snd (Option.some.inj hwhole)).symm
      rw [(List.append_eq_nil_iff.mp hrest).2, List.append_nil] at hne
      exact absurd rfl hne

/-- Messages in front of data of which nothing can be read are read. -/
theorem drain_writes {messages : List α} {written : List (List β)}
    (h : List.Forall₂ d.Writes messages written) {rest : List β} (hrest : d.next rest = none) :
    d.drain (written.flatten ++ rest) = (messages, rest) := by
  induction h with
  | nil => exact d.drain_none hrest
  | @cons a data messages written ha _ ih =>
      rw [List.flatten_cons, List.append_assoc, d.drain_some (d.stable ha _), List.nil_append, ih]

theorem next_nil (d : Delimiter β α) : d.next [] = none := by
  cases hnext : d.next [] with
  | none => rfl
  | some taken => exact absurd (d.shorter hnext) (Nat.not_lt_zero _)

/-- **The whole stream.** The messages that were written are read, and nothing is left over. -/
theorem read_whole {messages : List α} {written pieces : List (List β)}
    (h : List.Forall₂ d.Writes messages written) (hpieces : pieces.flatten = written.flatten) :
    (d.reader.outputs [] pieces).flatten = messages ∧ d.reader.final [] pieces = [] := by
  have hdrain := drain_writes h d.next_nil
  have hread := d.outputs_reader [] pieces (d.drain_none d.next_nil)
  rw [List.nil_append, hpieces, ← List.append_nil written.flatten, hdrain] at hread
  exact hread

/-- **A stream that stops.** Of a stream that stops inside a message the messages before it are
    read, and what is there of it is left over. -/
theorem read_cut {messages : List α} {before after pieces : List (List β)} {data front : List β}
    (h : List.Forall₂ d.Writes messages (before ++ data :: after)) (hfront : front <+: data)
    (hne : front ≠ data) (hpieces : pieces.flatten = before.flatten ++ front) :
    (d.reader.outputs [] pieces).flatten = messages.take before.length ∧
      d.reader.final [] pieces = front := by
  have hbefore := List.forall₂_take_append _ _ _ h
  have hnext : d.next front = none := by
    obtain ⟨a, rest, ha, -, -⟩ :=
      List.forall₂_cons_right_iff.mp (List.forall₂_drop_append _ _ _ h)
    exact ha.cut hfront hne
  have hread := d.outputs_reader [] pieces (d.drain_none d.next_nil)
  rw [List.nil_append, hpieces, drain_writes hbefore hnext] at hread
  exact hread

end Delimiter
