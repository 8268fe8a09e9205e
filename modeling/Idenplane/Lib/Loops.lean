import Idenplane.Lib.Atomic

/-! # Programs that loop over a list

A loop threads an accumulator through its turns.  `Decides` is the specification of a program
that either does exactly what it is described to do or fails: the condition under which it
succeeds, its result and the state that it leaves.
-/

namespace Atomic

open List

variable {σ ε α β γ : Type}

namespace Prog

/-- The turns of a loop, numbered from `start`. -/
def forEach (body : Nat → α → β → Prog σ ε β) : Nat → List α → β → Prog σ ε β
  | _, [], result => .done result
  | start, item :: items, result =>
    body start item result >>= fun result => forEach body (start + 1) items result

variable {body : Nat → α → β → Prog σ ε β}

theorem forEach_keeps {K : σ → σ → Prop} {xs : List α}
    (turn : ∀ n, ∀ item ∈ xs, ∀ result, (body n item result).Keeps K) (start : Nat) (result : β) :
    (forEach body start xs result).Keeps K := by
  induction xs generalizing start result with
  | nil => trivial
  | cons item xs ih =>
    refine .bind (turn start item mem_cons_self result) fun result => ?_
    exact ih (fun n other mem => turn n other (.tail _ mem)) _ _

/-- The program succeeds exactly when `ok` holds, with this result and state; when it fails, it
leaves a state with `bad`. -/
structure Decides (bad : σ → Prop) (p : Prog σ ε α) (s : σ) (ok : Prop) (a : α) (t : σ) : Prop where
  runs : ok → p.run s = (.ok a, t)
  fails : ¬ ok → ∃ e u, p.run s = (.error e, u) ∧ bad u

namespace Decides

variable {bad : σ → Prop} {p : Prog σ ε α} {s t u : σ} {ok ok' : Prop} {a : α} {b : β}

theorem done (a : α) (s : σ) : (Prog.done a : Prog σ ε α).Decides bad s True a s :=
  ⟨fun _ => rfl, fun refused => absurd trivial refused⟩

theorem congr (h : p.Decides bad s ok a t) (same : ok ↔ ok') : p.Decides bad s ok' a t :=
  ⟨fun holds => h.runs (same.mpr holds), fun refused => h.fails (mt same.mp refused)⟩

theorem bind {f : α → Prog σ ε β} (first : p.Decides bad s ok a t)
    (rest : ok → (f a).Decides bad t ok' b u) : (p >>= f).Decides bad s (ok ∧ ok') b u where
  runs holds := by rw [run_bind, first.runs holds.1]; exact (rest holds.1).runs holds.2
  fails refused := by
    by_cases holds : ok
    · rw [run_bind, first.runs holds]
      exact (rest holds).fails fun holds' => refused ⟨holds, holds'⟩
    · obtain ⟨e, v, failed, isBad⟩ := first.fails holds
      exact ⟨e, v, by rw [run_bind, failed], isBad⟩

theorem require {check : Bool} {e : ε} {s : σ} (refused : bad s) :
    (Prog.require check e : Prog σ ε Unit).Decides bad s (check = true) () s := by
  cases check with
  | true => exact ⟨fun _ => rfl, fun refused => absurd rfl refused⟩
  | false => exact ⟨fun holds => Bool.noConfusion holds, fun _ => ⟨e, s, rfl, refused⟩⟩

theorem result (h : p.Decides bad s ok a t) : (∃ a' t', p.run s = (.ok a', t')) ↔ ok := by
  constructor
  · rintro ⟨a', t', isOk⟩
    by_contra refused
    obtain ⟨e, u, failed, _⟩ := h.fails refused
    rw [isOk] at failed
    cases failed
  · exact fun holds => ⟨a, t, h.runs holds⟩

end Decides

def Accepts (ok : List α → α → Prop) : List α → List α → Prop
  | _, [] => True
  | before, item :: items => ok before item ∧ Accepts ok (before ++ [item]) items

section Acceptance

variable {κ : Type} {ok ok' : List α → α → Prop}

theorem accepts_and (pre items : List α) :
    Accepts (fun pre item => ok pre item ∧ ok' pre item) pre items ↔
      Accepts ok pre items ∧ Accepts ok' pre items := by
  induction items generalizing pre with
  | nil => simp [Accepts]
  | cons item items ih =>
    simp only [Accepts, ih]
    exact and_and_and_comm

/-- A condition on each item and its number. -/
theorem accepts_each (fine : Nat → α → Prop) (pre xs : List α) :
    Accepts (fun pre item => fine pre.length item) pre xs ↔
      ∀ j item, xs[j]? = some item → fine (pre.length + j) item := by
  induction xs generalizing pre with
  | nil => simp [Accepts]
  | cons item xs ih =>
    rw [Accepts, ih, length_append, length_singleton]
    constructor
    · rintro ⟨first, rest⟩ j other hit
      cases j with
      | zero =>
        cases hit
        exact first
      | succ j =>
        have here := rest j other hit
        rwa [Nat.add_right_comm, Nat.add_assoc] at here
    · intro all
      refine ⟨all 0 item rfl, fun j other hit => ?_⟩
      have here := all (j + 1) other hit
      rwa [← Nat.add_assoc, Nat.add_right_comm] at here

/-- No key is used twice, or is one of those that are taken. -/
theorem accepts_keys (keys : α → List κ) (taken : List κ) (pre xs : List α) :
    Accepts (fun pre item => (keys item).Nodup ∧
        ∀ key ∈ keys item, key ∉ taken ++ pre.flatMap keys) pre xs ↔
      (xs.flatMap keys).Nodup ∧ ∀ key ∈ xs.flatMap keys, key ∉ taken ++ pre.flatMap keys := by
  induction xs generalizing pre with
  | nil => simp [Accepts]
  | cons item xs ih =>
    rw [Accepts, ih, flatMap_cons, nodup_append, flatMap_append,
      flatMap_singleton]
    simp only [mem_append, not_or]
    constructor
    · rintro ⟨⟨own, apart⟩, rest, apart'⟩
      refine ⟨⟨own, rest, ?_⟩, ?_⟩
      · rintro key isOwn _ isRest rfl
        exact (apart' key isRest).2.2 isOwn
      · rintro key (isOwn | isRest)
        · exact apart key isOwn
        · exact ⟨(apart' key isRest).1, (apart' key isRest).2.1⟩
    · rintro ⟨⟨own, rest, apart⟩, all⟩
      refine ⟨⟨own, fun key isOwn => all key (.inl isOwn)⟩, rest, fun key isRest => ?_⟩
      exact ⟨(all key (.inr isRest)).1, (all key (.inr isRest)).2,
        fun isOwn => apart key isOwn key isRest rfl⟩

end Acceptance

/-- A loop is described by what it has done after some of its turns. -/
theorem Decides.forEach {bad : σ → Prop}
    {ok : List α → α → Prop} {result : List α → β} {state : List α → σ}
    (turn : ∀ pre item, (body pre.length item (result pre)).Decides bad (state pre)
      (ok pre item) (result (pre ++ [item])) (state (pre ++ [item])))
    (xs pre : List α) :
    (forEach body pre.length xs (result pre)).Decides bad (state pre)
      (Accepts ok pre xs) (result (pre ++ xs)) (state (pre ++ xs)) := by
  induction xs generalizing pre with
  | nil =>
    rw [append_nil]
    exact .done _ _
  | cons item xs ih =>
    have rest := ih (pre ++ [item])
    rw [length_append, length_singleton, append_assoc, singleton_append] at rest
    exact (turn pre item).bind fun _ => rest

theorem Decides.loop {bad : σ → Prop}
    (ok : List α → α → Prop) (result : List α → β) (state : List α → σ)
    (turn : ∀ pre item, (body pre.length item (result pre)).Decides bad (state pre)
      (ok pre item) (result (pre ++ [item])) (state (pre ++ [item]))) (xs : List α) :
    (Prog.forEach body 0 xs (result [])).Decides bad (state []) (Accepts ok [] xs)
      (result xs) (state xs) :=
  .forEach turn xs []

end Prog

export Prog (forEach accepts_keys accepts_and Decides.loop)

end Atomic
