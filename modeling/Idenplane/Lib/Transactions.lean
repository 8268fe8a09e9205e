import Idenplane.Lib.Pool

/-! # Transactions

A program inside one transaction of a database that refuses every statement after one that
failed: such a transaction can only be rolled back.  A handler may catch the exceptions.  What
the program notes for itself survives a rollback.
-/

namespace Atomic

open Prog

/-- An exception inside a transaction. -/
inductive Thrown where
  /-- A statement violated a constraint. -/
  | violation
  /-- A statement came after one that failed. -/
  | aborted
  /-- A statement was not sent, since an argument is not of the type of its column. -/
  | invalid
  /-- Any other exception of the program. -/
  | error (message : String)
  deriving DecidableEq

/-- What the transaction sees, and what the program has noted. -/
structure Transaction (δ ν : Type) where
  data : δ
  aborted : Bool := false
  notes : ν

namespace Transaction

variable {δ ν α β : Type}

abbrev Call (δ ν α : Type) := Prog (Transaction δ ν) Thrown α

def query (f : δ → α) : Call δ ν α := do
  let answer ← read fun s : Transaction δ ν => if s.aborted then none else some (f s.data)
  orFail answer .aborted

/-- The answer to a statement that writes; no answer is a violated constraint. -/
def written (f : δ → Option α × δ) (s : Transaction δ ν) : Except Thrown α × Transaction δ ν :=
  if s.aborted then (.error .aborted, s)
  else
    match f s.data with
    | (none, _) => (.error .violation, { s with aborted := true })
    | (some a, data) => (.ok a, { s with data := data })

def write (f : δ → Option α × δ) : Call δ ν α := do
  let result ← atomic (written f)
  ofResult result

/-- The answer to a statement on its own, outside of a transaction. -/
def writtenAlone (f : δ → Option α × δ) (s : Transaction δ ν) : Except Thrown α × Transaction δ ν :=
  match f s.data with
  | (none, _) => (.error .violation, s)
  | (some a, data) => (.ok a, { s with data := data })

def writeAlone (f : δ → Option α × δ) : Call δ ν α := do
  let result ← atomic (writtenAlone f)
  ofResult result

def note (f : ν → ν) : Call δ ν Unit := modify fun s => { s with notes := f s.notes }

/-- `try` and `catch`: the handler notes what was thrown. -/
def caught (handler : Thrown → ν → ν) (body : Call δ ν Unit) : Call δ ν Unit := do
  let result ← body.attempt
  match result with
  | .ok _ => pure ()
  | .error thrown => note (handler thrown)

def each (body : α → Call δ ν Unit) : List α → Call δ ν Unit
  | [] => pure ()
  | item :: items => do
    body item
    each body items

/-- The end of the transaction; to commit one that failed is to roll it back. -/
def committed (before : δ) (s : Transaction δ ν) : δ := if s.aborted then before else s.data

variable {p : Call δ ν α} {f : α → Call δ ν β} {handler : Thrown → ν → ν} {body : Call δ ν Unit}

section Runs

variable {s : Transaction δ ν} {t : Transaction δ ν} {a : α}

theorem run_bind_ok (ran : p.run s = (.ok a, t)) : (p >>= f).run s = (f a).run t := by
  rw [run_bind, ran]

theorem run_bind_error {thrown : Thrown} (ran : p.run s = (.error thrown, t)) :
    (p >>= f).run s = (.error thrown, t) := by
  rw [run_bind, ran]

theorem run_query (live : s.aborted = false) (f : δ → α) :
    (query f : Call δ ν α).run s = (.ok (f s.data), s) := by
  simp [query, live, orFail]

theorem run_query_aborted (aborted : s.aborted = true) (f : δ → α) :
    (query f : Call δ ν α).run s = (.error .aborted, s) := by
  simp [query, aborted, orFail]

theorem run_query_bind (live : s.aborted = false) (f : δ → α) (rest : α → Call δ ν β) :
    (query f >>= rest).run s = (rest (f s.data)).run s :=
  run_bind_ok (run_query live f)

theorem run_query_bind_aborted (aborted : s.aborted = true) (f : δ → α)
    (rest : α → Call δ ν β) : (query f >>= rest).run s = (.error .aborted, s) :=
  run_bind_error (run_query_aborted aborted f)

theorem run_write (f : δ → Option α × δ) : (write f : Call δ ν α).run s = written f s := by
  rw [write, run_atomic_bind]
  rcases written f s with ⟨result, t⟩
  cases result <;> rfl

theorem written_some {f : δ → Option α × δ} {data : δ} (live : s.aborted = false)
    (ans : f s.data = (some a, data)) : written f s = (.ok a, { s with data := data }) := by
  simp [written, live, ans]

theorem written_none {f : δ → Option α × δ} (live : s.aborted = false)
    (ans : (f s.data).1 = none) : written f s = (.error .violation, { s with aborted := true }) := by
  rcases asked : f s.data with ⟨result, data⟩
  rw [asked] at ans
  cases ans
  simp [written, live, asked]

theorem written_aborted (aborted : s.aborted = true) (f : δ → Option α × δ) :
    written f s = (.error .aborted, s) := by
  simp [written, aborted]

theorem written_ok {f : δ → Option α × δ}
    (answered : written f s = (.ok a, t)) : f s.data = (some a, t.data) := by
  unfold written at answered
  split at answered
  case isTrue => cases answered
  case isFalse =>
    rcases asked : f s.data with ⟨_ | b, data⟩ <;> rw [asked] at answered <;> cases answered
    rfl

theorem run_writeAlone (f : δ → Option α × δ) :
    (writeAlone f : Call δ ν α).run s = writtenAlone f s := by
  rw [writeAlone, run_atomic_bind]
  rcases writtenAlone f s with ⟨result, t⟩
  cases result <;> rfl

theorem writtenAlone_ok {f : δ → Option α × δ}
    (answered : writtenAlone f s = (.ok a, t)) : f s.data = (some a, t.data) := by
  unfold writtenAlone at answered
  rcases asked : f s.data with ⟨_ | b, data⟩ <;> rw [asked] at answered <;> cases answered
  rfl

theorem run_note (f : ν → ν) :
    (note f : Call δ ν Unit).run s = (.ok (), { s with notes := f s.notes }) := rfl

theorem run_caught_ok
    (ran : body.run s = (.ok (), t)) : (caught handler body).run s = (.ok (), t) := by
  rw [caught, run_attempt_bind, ran]
  rfl

theorem run_caught_error {thrown : Thrown} (ran : body.run s = (.error thrown, t)) :
    (caught handler body).run s = (.ok (), { t with notes := handler thrown t.notes }) := by
  rw [caught, run_attempt_bind, ran]
  rfl

end Runs

def Blind (p : Call δ ν α) : Prop :=
  ∀ s notes, p.run { s with notes := notes } = ((p.run s).1, { (p.run s).2 with notes := notes })

namespace Blind

theorem done (a : α) : Blind (pure a : Call δ ν α) := fun _ _ => rfl

theorem require (check : Bool) (e : Thrown) : Blind (require check e : Call δ ν Unit) := by
  cases check <;> exact fun _ _ => rfl

theorem orFail (given : Option α) (e : Thrown) : Blind (orFail given e : Call δ ν α) := by
  cases given <;> exact fun _ _ => rfl

theorem query (f : δ → α) : Blind (query f : Call δ ν α) := by
  rintro ⟨data, aborted, _⟩ notes
  cases aborted <;> rfl

theorem write (f : δ → Option α × δ) : Blind (write f : Call δ ν α) := by
  rintro ⟨data, aborted, _⟩ notes
  rw [run_write, run_write]
  cases aborted with
  | true => rfl
  | false =>
    rcases ans : f data with ⟨_ | a, data'⟩ <;> simp [written, ans]

theorem bind (first : Blind p) (rest : ∀ a, Blind (f a)) : Blind (p >>= f) := by
  intro s notes
  rw [run_bind, run_bind, first s notes]
  rcases p.run s with ⟨result, t⟩
  cases result with
  | ok a => exact rest a t notes
  | error e => rfl

theorem ignored {p : Call δ ν Unit} (h : Blind p) : Blind (caught (fun _ notes => notes) p) := by
  intro s notes
  have ran := h s notes
  rcases first : p.run s with ⟨result, t⟩
  rw [first] at ran
  cases result with
  | ok a => rw [run_caught_ok ran, run_caught_ok first]
  | error e => rw [run_caught_error ran, run_caught_error first]

theorem each {body : α → Call δ ν Unit} (turns : ∀ item, Blind (body item)) (xs : List α) :
    Blind (each body xs) := by
  induction xs with
  | nil => exact .done ()
  | cons item xs ih => exact .bind (turns item) fun _ => ih

end Blind

def Upholds (K : δ → δ → Prop) (p : Call δ ν α) : Prop := p.Keeps fun s t => K s.data t.data

namespace Upholds

variable {K : δ → δ → Prop}

theorem done (a : α) : Upholds K (pure a : Call δ ν α) := trivial

theorem bind (first : Upholds K p)
    (rest : ∀ a, Upholds K (f a)) : Upholds K (p >>= f) := Prog.Keeps.bind first rest

theorem require (check : Bool) (e : Thrown) :
    Upholds K (require check e : Call δ ν Unit) := Prog.Keeps.require check e

theorem orFail (given : Option α) (e : Thrown) :
    Upholds K (orFail given e : Call δ ν α) := Prog.Keeps.orFail given e

theorem result (r : Except Thrown α) : Upholds K (ofResult r : Call δ ν α) := by
  cases r <;> trivial

theorem attempt (h : Upholds K p) :
    Upholds K (p.attempt : Call δ ν (Except Thrown α)) := Prog.Keeps.attempt h

section

variable (refl : ∀ data, K data data)

include refl

theorem query (f : δ → α) : Upholds K (query f : Call δ ν α) := by
  apply bind (.read (fun s => refl s.data) _)
  intro ans
  exact .orFail ans .aborted

theorem write {f : δ → Option α × δ}
    (keeps : ∀ data, K data (f data).2) : Upholds K (write f : Call δ ν α) := by
  apply bind (.atomic ?_) result
  intro s
  cases aborted : s.aborted with
  | true =>
    rw [written_aborted aborted]
    exact refl s.data
  | false =>
    have kept := keeps s.data
    rcases ans : f s.data with ⟨_ | a, data⟩
    · rw [written_none aborted (by rw [ans])]
      exact refl s.data
    · rw [written_some aborted ans]
      rwa [ans] at kept

theorem writeAlone {f : δ → Option α × δ}
    (keeps : ∀ data, K data (f data).2) : Upholds K (writeAlone f : Call δ ν α) := by
  apply bind (.atomic ?_) result
  intro s
  have kept := keeps s.data
  rcases ans : f s.data with ⟨_ | a, data⟩
  · simp only [writtenAlone, ans]
    exact refl s.data
  · simp only [writtenAlone, ans]
    rwa [ans] at kept

theorem note (f : ν → ν) : Upholds K (note f : Call δ ν Unit) :=
  .modify fun s => refl s.data

theorem caught (h : Upholds K body) : Upholds K (caught handler body) := by
  apply bind (attempt h)
  intro result
  cases result with
  | ok _ => exact done ()
  | error thrown => exact note refl (handler thrown)

end

theorem each {body : α → Call δ ν Unit} (turns : ∀ item, Upholds K (body item))
    (xs : List α) : Upholds K (each body xs) := by
  induction xs with
  | nil => exact done ()
  | cons item xs ih => exact bind (turns item) fun _ => ih

theorem run (refl : ∀ data, K data data) (trans : ∀ {a b c}, K a b → K b c → K a c) (h : Upholds K p) (s : Transaction δ ν) : K s.data (p.run s).2.data :=
  Prog.Keeps.run (K := fun s t : Transaction δ ν => K s.data t.data) (fun s => refl s.data)
    (fun first snd => trans first snd) h s

end Upholds

end Transaction

end Atomic
