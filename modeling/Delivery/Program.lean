/-!
# Programs that ask

Retries, guarded calls, deliveries and replays wait in the middle: for a clock, for a store, for a
handler. Their rules are written once, over any monad that offers the questions they need. `Program`
is the free such monad: a finished value, or one question and what to do with each reply. A schedule
can then hold many half-run programs and take one question of one of them at a time.
-/

namespace Delivery

inductive Program (Ask : Type) (Reply : Ask → Type) (α : Type) where
  | done (value : α)
  | ask (question : Ask) (next : Reply question → Program Ask Reply α)

namespace Program

variable {Ask : Type} {Reply : Ask → Type} {α β : Type}

def bind : Program Ask Reply α → (α → Program Ask Reply β) → Program Ask Reply β
  | .done a, f => f a
  | .ask q next, f => .ask q fun r => (next r).bind f

instance : Monad (Program Ask Reply) where
  pure := .done
  bind := bind

def perform (q : Ask) : Program Ask Reply (Reply q) :=
  .ask q .done

def run {m : Type → Type} [Monad m] (answer : (q : Ask) → m (Reply q)) :
    Program Ask Reply α → m α
  | .done a => pure a
  | .ask q next => do (next (← answer q)).run answer

/-! ### Laws -/

theorem bind_done (p : Program Ask Reply α) : p.bind .done = p := by
  induction p with
  | done a => rfl
  | ask q next ih => simp only [bind, ih]

theorem bind_assoc {γ : Type} (p : Program Ask Reply α) (f : α → Program Ask Reply β)
    (g : β → Program Ask Reply γ) : (p.bind f).bind g = p.bind fun a => (f a).bind g := by
  induction p with
  | done a => rfl
  | ask q next ih => simp only [bind, ih]

instance : LawfulMonad (Program Ask Reply) :=
  LawfulMonad.mk' _ (fun p => bind_done p) (fun _ _ => rfl) (fun p f g => bind_assoc p f g)

@[simp] theorem pure_eq (a : α) : (pure a : Program Ask Reply α) = .done a := rfl

@[simp] theorem done_bind (a : α) (f : α → Program Ask Reply β) :
    (Program.done a >>= f) = f a := rfl

@[simp] theorem ask_bind (q : Ask) (next : Reply q → Program Ask Reply α)
    (f : α → Program Ask Reply β) : (Program.ask q next >>= f) = .ask q fun r => next r >>= f := rfl

end Program

end Delivery
