/-!
# Programs as data

A program is either done, or it asks a request and goes on with the answer.  What
a request is, and what kind of answer it has, is a parameter, so that a rule about
stores and a rule about files are written in the same way.

One program can be read in several ways.  `run` answers its requests from a pure
state and is what statements are about; `expand` answers each request by a
program over other requests, which joins two layers; `perform` answers them in any
monad, which is how a program meets the outside world.  `run_expand` says that
running an expansion is running the program itself, each of its requests answered
by a run of the program that stands for it.
-/

namespace AddressPool

set_option autoImplicit false

/-- A computation that asks requests and goes on with their answers. -/
inductive Program (Request : Type) (Answer : Request → Type) (α : Type) where
  | done (result : α)
  | ask (request : Request) (next : Answer request → Program Request Answer α)

namespace Program

variable {Request Other : Type} {Answer : Request → Type} {Reply : Other → Type} {α β σ : Type}

/-- Asks one request and is done with its answer. -/
def request (request : Request) : Program Request Answer (Answer request) := ask request done

/-- Goes on with the result of a program. -/
def andThen : Program Request Answer α → (α → Program Request Answer β) →
    Program Request Answer β
  | done result, follow => follow result
  | ask request next, follow => ask request fun answer => (next answer).andThen follow

instance : Monad (Program Request Answer) where
  pure := done
  bind := andThen

/-- Answers the requests from a state. -/
def run (answer : (request : Request) → σ → Answer request × σ) :
    Program Request Answer α → σ → α × σ
  | done result, state => (result, state)
  | ask request next, state =>
    (next (answer request state).1).run answer (answer request state).2

/-- Answers each request by a program over other requests. -/
def expand (answer : (request : Request) → Program Other Reply (Answer request)) :
    Program Request Answer α → Program Other Reply α
  | done result => done result
  | ask request next => (answer request).andThen fun answered => (next answered).expand answer

/-- Answers the requests in a monad. -/
def perform {m : Type → Type} [Monad m] (answer : (request : Request) → m (Answer request)) :
    Program Request Answer α → m α
  | done result => pure result
  | ask request next => do
    let answered ← answer request
    (next answered).perform answer

theorem andThen_done (program : Program Request Answer α) : program.andThen done = program := by
  induction program with
  | done result => rfl
  | ask request next ih => simp only [andThen, ih]

theorem andThen_assoc {γ : Type} (program : Program Request Answer α)
    (follow : α → Program Request Answer β) (last : β → Program Request Answer γ) :
    (program.andThen follow).andThen last =
      program.andThen fun result => (follow result).andThen last := by
  induction program with
  | done result => rfl
  | ask request next ih => simp only [andThen, ih]

instance : LawfulMonad (Program Request Answer) :=
  LawfulMonad.mk' _ andThen_done (fun _ _ => rfl) andThen_assoc

/-- A run of two programs in sequence is the run of the second from where the first ends. -/
theorem run_andThen (answer : (request : Request) → σ → Answer request × σ)
    (program : Program Request Answer α) (follow : α → Program Request Answer β) (state : σ) :
    (program.andThen follow).run answer state =
      (follow (program.run answer state).1).run answer (program.run answer state).2 := by
  induction program generalizing state with
  | done result => rfl
  | ask request next ih => simp only [andThen, run, ih]

theorem run_bind (answer : (request : Request) → σ → Answer request × σ)
    (program : Program Request Answer α) (follow : α → Program Request Answer β) (state : σ) :
    (program >>= follow).run answer state =
      (follow (program.run answer state).1).run answer (program.run answer state).2 :=
  run_andThen answer program follow state

/-- A run of an expansion answers each request by a run of the program that stands for it. -/
theorem run_expand (reply : (other : Other) → σ → Reply other × σ)
    (answer : (request : Request) → Program Other Reply (Answer request))
    (program : Program Request Answer α) (state : σ) :
    (program.expand answer).run reply state =
      program.run (fun request => (answer request).run reply) state := by
  induction program generalizing state with
  | done result => rfl
  | ask request next ih => simp only [expand, run, run_andThen, ih]

end Program

end AddressPool
