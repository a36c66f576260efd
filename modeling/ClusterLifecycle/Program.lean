/-!
# Programs that make requests

A program ends with a result, or makes a request and goes on with the answer. What a request does is
not said here: a program is interpreted by whatever answers its requests, be it a model of the world
in memory or a program over other requests.

Main statements: `Program` is a lawful monad.
-/

namespace ClusterLifecycle

/-- Requests, and the type of the answer to each. -/
structure Interface where
  Request : Type
  Answer : Request → Type

/-- A program that makes requests of an interface and ends with a result. -/
inductive Program (ι : Interface) (α : Type) where
  /-- The program ends. -/
  | done (result : α)
  /-- The program makes a request and goes on with the answer. -/
  | ask (request : ι.Request) (next : ι.Answer request → Program ι α)

namespace Program

variable {ι : Interface} {α β γ : Type}

/-- Goes on with the result of a program. -/
def bind : Program ι α → (α → Program ι β) → Program ι β
  | done a, f => f a
  | ask request next, f => ask request fun answer => (next answer).bind f

instance : Monad (Program ι) where
  pure := done
  bind := bind

/-- Makes one request; the result is the answer. -/
def request (r : ι.Request) : Program ι (ι.Answer r) :=
  ask r done

/-- Runs a program, each request being answered in a monad. -/
def interpret {m : Type → Type} [Monad m] (answer : (r : ι.Request) → m (ι.Answer r)) :
    Program ι α → m α
  | done a => pure a
  | ask r next => do interpret answer (next (← answer r))

/-! ## Laws -/

theorem bind_done (p : Program ι α) : p.bind done = p := by
  induction p with
  | done a => rfl
  | ask r next ih => simp [bind, ih]

theorem bind_assoc (p : Program ι α) (f : α → Program ι β) (g : β → Program ι γ) :
    (p.bind f).bind g = p.bind fun a => (f a).bind g := by
  induction p with
  | done a => rfl
  | ask r next ih => simp [bind, ih]

instance : LawfulMonad (Program ι) :=
  LawfulMonad.mk' (Program ι) bind_done (fun _ _ => rfl) bind_assoc

end Program

/-! ## Programs that may fail -/

/-- A program that ends with a result or a failure. -/
abbrev Attempt (ι : Interface) (ε α : Type) := ExceptT ε (Program ι) α

end ClusterLifecycle
