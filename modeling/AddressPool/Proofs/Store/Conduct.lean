import AddressPool.Proofs.Store.Memory

/-!
# How a store conducts itself

A store answers a request as a store in memory does, or it refuses: it says why, and
changes nothing (`Answers`).  What it may refuse is a parameter.  A store in memory
refuses nothing, a store on disk what the limits on names and paths forbid.

A refusal is never the answer that another owner holds an address, and never keeps
a reservation that is there from being listed or released.

`StoreRun` is a run of a program whose requests are answered in this way.  Whatever
is proved of such runs holds for a store of either kind.
-/

namespace AddressPool

set_option autoImplicit false

/-- The answer that reports an error. -/
def StoreRequest.refusal : (request : StoreRequest) → StoreError → request.Answer
  | .lock, fault => .error fault
  | .reserve _ _ _, fault => .error fault
  | .release _, fault => .error fault
  | .releaseByOwner _, fault => .error fault
  | .reservations, fault => .error fault
  | .cursor _, fault => .error fault
  | .setCursor _ _, fault => .error fault

/-- A request that gets along without the reservations which the store holds. -/
def StoreRequest.Refusable (memory : Memory) : StoreRequest → Prop
  | .release address => memory.find? address = none
  | .releaseByOwner _ => False
  | .reservations => False
  | _ => True

/-- An error other than that an address is held. -/
def StoreError.Outward (fault : StoreError) : Prop :=
  ∀ address owner, fault ≠ .alreadyReserved address owner

/-- What a store that holds the content of `memory` may answer, and what it holds behind that. -/
def Answers (refuses : StoreRequest → Prop) (memory : Memory) (request : StoreRequest)
    (answer : request.Answer) (after : Memory) : Prop :=
  answer = (Memory.answer request memory).1 ∧ after = (Memory.answer request memory).2 ∨
    refuses request ∧ request.Refusable memory ∧ after = memory ∧
      ∃ fault : StoreError, fault.Outward ∧ answer = request.refusal fault

/-- A run of a program from one content of a store to another. -/
inductive StoreRun (refuses : StoreRequest → Prop) {α : Type} :
    StoreProgram α → Memory → α → Memory → Prop where
  | done (result : α) (memory : Memory) : StoreRun refuses (.done result) memory result memory
  | ask {request : StoreRequest} {next : request.Answer → StoreProgram α}
      {answer : request.Answer} {memory middle after : Memory} {result : α}
      (answers : Answers refuses memory request answer middle)
      (rest : StoreRun refuses (next answer) middle result after) :
      StoreRun refuses (.ask request next) memory result after

variable {refuses : StoreRequest → Prop} {memory after : Memory}

/-! ## The answers to each kind of request -/

namespace Answers

/-- The answer of a store in memory. -/
theorem given (request : StoreRequest) :
    Answers refuses memory request (Memory.answer request memory).1
      (Memory.answer request memory).2 := .inl ⟨rfl, rfl⟩

theorem eq_of_not_refused {request : StoreRequest} {answer : request.Answer}
    (answers : Answers refuses memory request answer after) (willing : ¬ refuses request) :
    answer = (Memory.answer request memory).1 ∧ after = (Memory.answer request memory).2 := by
  rcases answers with same | ⟨refuse, _⟩
  · exact same
  · exact absurd refuse willing

/-- A store that refuses more may give the answers of one that refuses less. -/
theorem mono {willing : StoreRequest → Prop} (fewer : ∀ request, refuses request → willing request)
    {request : StoreRequest} {answer : request.Answer}
    (answers : Answers refuses memory request answer after) :
    Answers willing memory request answer after := by
  refine answers.imp_right ?_
  rintro ⟨refuse, rest⟩
  exact ⟨fewer request refuse, rest⟩

theorem lock {answer : Except StoreError Unit}
    (answers : Answers refuses memory .lock answer after) :
    after = memory ∧
      (answer = .ok () ∨ refuses .lock ∧ ∃ fault, answer = .error fault) := by
  rcases answers with ⟨same, rfl⟩ | ⟨refuse, _, same, fault, _, failed⟩
  · exact ⟨rfl, .inl same⟩
  · exact ⟨same, .inr ⟨refuse, fault, failed⟩⟩

/-- A reservation is new, or the address is held, or the store refuses. -/
theorem reserve {address : Address} {owner interface : String} {answer : Except StoreError Bool}
    (answers : Answers refuses memory (.reserve address owner interface) answer after) :
    (memory.find? address = none ∧ answer = .ok true ∧
        after = memory.put ⟨address, owner, interface⟩) ∨
      (∃ holder, memory.find? address = some holder ∧ after = memory ∧
        (holder.owner = owner ∧ answer = .ok false ∨
          holder.owner ≠ owner ∧ answer = .error (.alreadyReserved address holder.owner))) ∨
      refuses (.reserve address owner interface) ∧ after = memory ∧
        ∃ fault : StoreError, fault.Outward ∧ answer = .error fault := by
  rcases answers with ⟨same, left⟩ | ⟨refuse, _, same, fault, outward, failed⟩
  · rw [Memory.answer] at same left
    cases found : memory.find? address with
    | none =>
      simp only [found] at same left
      exact .inl ⟨rfl, same, left⟩
    | some holder =>
      simp only [found] at same left
      by_cases held : holder.owner = owner
      · rw [if_pos held] at same left
        exact .inr (.inl ⟨holder, rfl, left, .inl ⟨held, same⟩⟩)
      · rw [if_neg held] at same left
        exact .inr (.inl ⟨holder, rfl, left, .inr ⟨held, same⟩⟩)
  · exact .inr (.inr ⟨refuse, same, fault, outward, failed⟩)

/-- A reservation that is there is released when that is asked. -/
theorem release {address : Address} {answer : Except StoreError Bool}
    (answers : Answers refuses memory (.release address) answer after) :
    ((∃ released, answer = .ok released) ∧
        after = memory.keep fun other => decide (other.address ≠ address)) ∨
      refuses (.release address) ∧ memory.find? address = none ∧ after = memory ∧
        ∃ fault, answer = .error fault := by
  rcases answers with ⟨same, left⟩ | ⟨refuse, spared, same, fault, _, failed⟩
  · exact .inl ⟨⟨_, same⟩, left⟩
  · exact .inr ⟨refuse, spared, same, fault, failed⟩

/-- All addresses of an owner are released and counted. -/
theorem releaseByOwner_counted {owner : String} {answer : Except StoreError Nat}
    (answers : Answers refuses memory (.releaseByOwner owner) answer after) :
    answer = .ok (memory.ownedBy owner).length ∧
      after = memory.keep fun other => decide (other.owner ≠ owner) := by
  rcases answers with ⟨same, left⟩ | ⟨_, spared, _⟩
  · rw [Memory.length_ownedBy]
    exact ⟨same, left⟩
  · exact spared.elim

theorem releaseByOwner {owner : String} {answer : Except StoreError Nat}
    (answers : Answers refuses memory (.releaseByOwner owner) answer after) :
    (∃ count, answer = .ok count) ∧
      after = memory.keep fun other => decide (other.owner ≠ owner) := by
  obtain ⟨counted, left⟩ := answers.releaseByOwner_counted
  exact ⟨⟨_, counted⟩, left⟩

theorem reservations {answer : Except StoreError (List Reservation)}
    (answers : Answers refuses memory .reservations answer after) :
    answer = .ok memory.reservations ∧ after = memory := by
  rcases answers with ⟨same, left⟩ | ⟨_, spared, _⟩
  · exact ⟨same, left⟩
  · exact spared.elim

theorem cursor {id : String} {answer : Except StoreError (Option Address)}
    (answers : Answers refuses memory (.cursor id) answer after) :
    after = memory ∧ (answer = .ok (memory.cursors.lookup id) ∨
      refuses (.cursor id) ∧ ∃ fault, answer = .error fault) := by
  rcases answers with ⟨same, left⟩ | ⟨refuse, _, same, fault, _, failed⟩
  · exact ⟨left, .inl same⟩
  · exact ⟨same, .inr ⟨refuse, fault, failed⟩⟩

theorem setCursor {id : String} {address : Address} {answer : Except StoreError Unit}
    (answers : Answers refuses memory (.setCursor id address) answer after) :
    (answer = .ok () ∧ after = memory.putCursor id address) ∨
      refuses (.setCursor id address) ∧ after = memory ∧ ∃ fault, answer = .error fault := by
  rcases answers with ⟨same, left⟩ | ⟨refuse, _, same, fault, _, failed⟩
  · exact .inl ⟨same, left⟩
  · exact .inr ⟨refuse, same, fault, failed⟩

end Answers

/-! ## Runs of programs -/

namespace StoreRun

variable {α β : Type} {result : α}

theorem of_done {value : α} (run : StoreRun refuses (.done value) memory result after) :
    result = value ∧ after = memory := by
  cases run with
  | done => exact ⟨rfl, rfl⟩

/-- A program that asks first goes on behind some answer. -/
theorem of_ask {request : StoreRequest} {next : request.Answer → StoreProgram α}
    (run : StoreRun refuses (.ask request next) memory result after) :
    ∃ answer middle, Answers refuses memory request answer middle ∧
      StoreRun refuses (next answer) middle result after := by
  cases run with
  | ask answers rest => exact ⟨_, _, answers, rest⟩

/-- A program that asks one request first. -/
theorem of_request {request : StoreRequest} {next : request.Answer → StoreProgram α}
    (run : StoreRun refuses (request.ask >>= next) memory result after) :
    ∃ answer middle, Answers refuses memory request answer middle ∧
      StoreRun refuses (next answer) middle result after := of_ask run

/-- A run of two programs in sequence is a run of the first and then one of the second. -/
theorem of_andThen {program : StoreProgram α} {follow : α → StoreProgram β} {last : β}
    (run : StoreRun refuses (program.andThen follow) memory last after) :
    ∃ result middle, StoreRun refuses program memory result middle ∧
      StoreRun refuses (follow result) middle last after := by
  induction program generalizing memory with
  | done value => exact ⟨value, memory, .done value memory, run⟩
  | ask request next ih =>
    obtain ⟨answer, middle, answers, rest⟩ := run.of_ask
    obtain ⟨result, later, first, second⟩ := ih answer rest
    exact ⟨result, later, .ask answers first, second⟩

/-- The reservations of an owner are always told. -/
theorem of_reservationsOf {owner : String} {answer : Except StoreError (List Reservation)}
    (run : StoreRun refuses (reservationsOf owner) memory answer after) :
    answer = .ok (memory.ownedBy owner) ∧ after = memory := by
  obtain ⟨_, _, listed, rest⟩ := of_request run
  obtain ⟨rfl, rfl⟩ := listed.reservations
  exact of_done rest

/-- A store that refuses more may conduct itself as one that refuses less. -/
theorem mono {willing : StoreRequest → Prop} (fewer : ∀ request, refuses request → willing request)
    {program : StoreProgram α} (run : StoreRun refuses program memory result after) :
    StoreRun willing program memory result after := by
  induction run with
  | done value memory => exact .done value memory
  | ask answers _ ih => exact .ask (answers.mono fewer) ih

/-- A store in memory answers every program. -/
theorem of_memory (refuses : StoreRequest → Prop) (program : StoreProgram α) (memory : Memory) :
    StoreRun refuses program memory (program.run Memory.answer memory).1
      (program.run Memory.answer memory).2 := by
  induction program generalizing memory with
  | done value => exact .done value memory
  | ask request next ih => exact .ask (.given request) (ih _ _)

end StoreRun

end AddressPool
