/-!
# Tasks

A computation over a shared state that may suspend.  Between two suspensions a task runs
undisturbed; while it is suspended the state may be changed by others, and it goes on
from the state it then finds.

## Main definitions

* `Task` — a finite tree of reads, writes and suspensions that ends in a value.
* `Task.poll` — runs a task to its next suspension.
* `Task.run` — runs a task to its end, with nothing in between.
* `Task.both`, `Task.all` — tasks side by side: in each round every task that has not
  ended goes on to its next suspension, in order.
* `Cell` — a part of the state.
-/

namespace FeatureFlags

/-- A computation over a state of type `σ` that may suspend. -/
inductive Task (σ α : Type) : Type where
  | done (a : α)
  | read (next : σ → Task σ α)
  | write (s : σ) (next : Task σ α)
  | suspend (next : Task σ α)

/-- What one run of a task up to its next suspension gives. -/
inductive Progress (σ α : Type) : Type where
  | finished (a : α)
  | waiting (rest : Task σ α)

namespace Task

variable {σ α β γ : Type}

/-! ### Sequencing -/

/-- A task followed by one that depends on its value. -/
def bind : Task σ α → (α → Task σ β) → Task σ β
  | done a, f => f a
  | read next, f => read fun s => bind (next s) f
  | write s next, f => write s (bind next f)
  | suspend next, f => suspend (bind next f)

instance : Monad (Task σ) where
  pure := done
  bind := bind

@[simp] theorem pure_def (a : α) : (pure a : Task σ α) = done a := rfl

@[simp] theorem bind_def (t : Task σ α) (f : α → Task σ β) : t >>= f = t.bind f := rfl

@[simp] theorem bind_done (a : α) (f : α → Task σ β) : (done a).bind f = f a := rfl

@[simp] theorem bind_read (next : σ → Task σ α) (f : α → Task σ β) :
    (read next).bind f = read fun s => (next s).bind f := rfl

@[simp] theorem bind_write (s : σ) (next : Task σ α) (f : α → Task σ β) :
    (write s next).bind f = write s (next.bind f) := rfl

@[simp] theorem bind_suspend (next : Task σ α) (f : α → Task σ β) :
    (suspend next).bind f = suspend (next.bind f) := rfl

theorem bind_done_right (t : Task σ α) : t.bind done = t := by
  induction t with
  | done a => rfl
  | read next ih => simp [ih]
  | write s next ih => simp [ih]
  | suspend next ih => simp [ih]

theorem bind_assoc (t : Task σ α) (f : α → Task σ β) (g : β → Task σ γ) :
    (t.bind f).bind g = t.bind fun a => (f a).bind g := by
  induction t with
  | done a => rfl
  | read next ih => simp [ih]
  | write s next ih => simp [ih]
  | suspend next ih => simp [ih]

instance : LawfulMonad (Task σ) where
  map_const := rfl
  id_map := bind_done_right
  seqLeft_eq t u := by
    change t.bind (fun a => u.bind fun _ => done a) =
      (t.bind fun a => done (Function.const _ a)).bind fun f => u.bind fun b => done (f b)
    simp [bind_assoc]
  seqRight_eq t u := by
    change (t.bind fun _ => u) =
      (t.bind fun a => done (Function.const _ id a)).bind fun f => u.bind fun b => done (f b)
    simp [bind_assoc, bind_done_right]
  pure_seq _ _ := rfl
  bind_pure_comp _ _ := rfl
  bind_map _ _ := rfl
  pure_bind _ _ := rfl
  bind_assoc := bind_assoc

/-- The state as it is. -/
def get : Task σ σ := read done

/-- Changes the state. -/
def modify (f : σ → σ) : Task σ Unit := read fun s => write (f s) (done ())

/-- A step on the state that does not suspend. -/
def atomically (f : σ → α × σ) : Task σ α := read fun s => write (f s).2 (done (f s).1)

/-- Gives up control a number of times. -/
def yields : Nat → Task σ Unit
  | 0 => done ()
  | n + 1 => suspend (yields n)

/-- A step on the state that is taken by a thread of its own.  The task waits for it: others may go
on before the thread takes the step, and again before the task hears of it. -/
def onThread (f : σ → α × σ) : Task σ α := do
  yields 1
  let a ← atomically f
  yields 1
  return a

/-! ### Running -/

/-- Runs a task to its next suspension or its end. -/
def poll : Task σ α → σ → Progress σ α × σ
  | done a, s => (.finished a, s)
  | read next, s => poll (next s) s
  | write s next, _ => poll next s
  | suspend next, s => (.waiting next, s)

/-- Polls a task at most a number of times. -/
def pollTimes : Nat → Task σ α → σ → Progress σ α × σ
  | 0, t, s => (.waiting t, s)
  | n + 1, t, s =>
    match t.poll s with
    | (.waiting rest, s) => pollTimes n rest s
    | ended => ended

/-- Runs a task to its end, going on at once after each suspension. -/
def run : Task σ α → σ → α × σ
  | done a, s => (a, s)
  | read next, s => run (next s) s
  | write s next, _ => run next s
  | suspend next, s => run next s

@[simp] theorem run_done (a : α) (s : σ) : (done a).run s = (a, s) := rfl

@[simp] theorem run_read (next : σ → Task σ α) (s : σ) :
    (read next).run s = (next s).run s := rfl

@[simp] theorem run_write (s s' : σ) (next : Task σ α) :
    (write s next).run s' = next.run s := rfl

@[simp] theorem run_suspend (next : Task σ α) (s : σ) :
    (suspend next).run s = next.run s := rfl

theorem run_bind (t : Task σ α) (f : α → Task σ β) (s : σ) :
    (t.bind f).run s = (f (t.run s).1).run (t.run s).2 := by
  induction t generalizing s with
  | done a => rfl
  | read next ih => simp [ih]
  | write s' next ih => simp [ih]
  | suspend next ih => simp [ih]

/-! ### Side by side -/

/-- The turn of the second task in a round in which the first one has suspended: the round
ends where it suspends, or ends. -/
def turn (goOn : Task σ β → Task σ γ) (finish : β → Task σ γ) : Task σ β → Task σ γ
  | done b => suspend (finish b)
  | read next => read fun s => turn goOn finish (next s)
  | write s next => write s (turn goOn finish next)
  | suspend next => suspend (goOn next)

/-- Two tasks side by side, the first one first in every round. -/
def both : Task σ α → Task σ β → Task σ (α × β)
  | done a, u => u.bind fun b => done (a, b)
  | read next, u => read fun s => both (next s) u
  | write s next, u => write s (both next u)
  | suspend next, u =>
    turn (fun u => both next u) (fun b => next.bind fun a => done (a, b)) u

/-- Any number of tasks side by side, in order in every round. -/
def all : List (Task σ α) → Task σ (List α)
  | [] => done []
  | t :: ts => (both t (all ts)).bind fun (a, as) => done (a :: as)

/-- Tasks one after the other. -/
def each (f : α → Task σ Unit) : List α → Task σ Unit
  | [] => done ()
  | a :: rest => (f a).bind fun _ => each f rest

@[simp] theorem all_nil : all ([] : List (Task σ α)) = done [] := rfl

@[simp] theorem each_nil (f : α → Task σ Unit) : each f [] = done () := rfl

@[simp] theorem each_cons (f : α → Task σ Unit) (a : α) (rest : List α) :
    each f (a :: rest) = (f a).bind fun _ => each f rest := rfl

theorem each_append (f : α → Task σ Unit) (items more : List α) :
    each f (items ++ more) = (each f items).bind fun _ => each f more := by
  induction items with
  | nil => rfl
  | cons a rest ih => rw [List.cons_append, each_cons, each_cons, ih, bind_assoc]

end Task

/-- A part of a state. -/
structure Cell (σ α : Type) where
  get : σ → α
  set : α → σ → σ

namespace Cell

variable {σ α : Type}

/-- Changes the part. -/
def modify (cell : Cell σ α) (f : α → α) : Task σ Unit :=
  Task.modify fun s => cell.set (f (cell.get s)) s

end Cell

end FeatureFlags
