import FlowLogic.Proofs.Outcome
import FlowLogic.Sandbox.Session
import Mathlib.Data.List.Range

/-!
The sessions of a sandbox over a history of requests.  Open are exactly those sessions that were
opened and not closed again.  The numbers are given out once and in order, also to a session that
lasts no longer than the request it is opened for.
-/

namespace FlowLogic

namespace Sandbox

variable {s : Sandbox} {program : Node}

theorem openSession_of_ok (accepted : s.env.registry.check program = .ok ()) :
    s.openSession program =
      ({ s with nextId := s.nextId + 1, live := s.nextId :: s.live },
        .ok ⟨s.nextId, program⟩) := by
  rw [openSession, accepted]

theorem openSession_of_error {e : SandboxError}
    (refused : s.env.registry.check program = .error e) :
    s.openSession program = (s, .error e) := by
  rw [openSession, refused]

theorem issued_of_ok (accepted : s.env.registry.check program = .ok ()) :
    (s.openSession program).2.toOption.map Session.id = some s.nextId := by
  rw [openSession_of_ok accepted]
  rfl

theorem issued_of_error {e : SandboxError} (refused : s.env.registry.check program = .error e) :
    (s.openSession program).2.toOption.map Session.id = none := by
  rw [openSession_of_error refused]
  rfl

theorem closeSession_opened (fresh : s.nextId ∉ s.live) :
    closeSession { s with nextId := s.nextId + 1, live := s.nextId :: s.live }
        ⟨s.nextId, program⟩ =
      { s with nextId := s.nextId + 1 } := by
  have others : s.live.filter (· != s.nextId) = s.live := by
    rw [List.filter_eq_self]
    intro id member
    rw [bne_iff_ne]
    rintro rfl
    exact fresh member
  simp [closeSession, others]

/-- A sandbox, and the sessions of it that its clients hold. -/
structure Tenancy where
  sandbox : Sandbox
  held : List Session

/-- What a client asks; a session goes by its number. -/
inductive Request where
  | openSession (program : Node)
  | run (id : Nat) (data : Bindings)
  | closeSession (id : Nat)
  | execute (program : Node) (data : Bindings)
  | check (program : Node)

inductive Answer where
  | opened (id : Nat)
  | refused (error : SandboxError)
  | ran (outcome : Except SandboxError Json)
  | closed (id : Nat)
  | executed (outcome : Except SandboxError Json)
  | checked (outcome : Except SandboxError Unit)
  | unknown

/-- Neither opens nor closes a session that a client holds. -/
def Answer.Passing : Answer → Prop
  | .opened _ | .closed _ => False
  | _ => True

namespace Tenancy

def start (env : Environment) : Tenancy := ⟨.start env, []⟩

def answer (t : Tenancy) : Request → Tenancy × Answer
  | .openSession program =>
    match t.sandbox.openSession program with
    | (after, .ok session) => (⟨after, session :: t.held⟩, .opened session.id)
    | (after, .error e) => (⟨after, t.held⟩, .refused e)
  | .run id data =>
    match t.held.find? (·.id == id) with
    | some session => (t, .ran (t.sandbox.run session data))
    | none => (t, .unknown)
  | .closeSession id =>
    match t.held.find? (·.id == id) with
    | some session =>
      (⟨t.sandbox.closeSession session, t.held.filter (·.id != id)⟩, .closed session.id)
    | none => (t, .unknown)
  | .execute program data =>
    let (after, outcome) := t.sandbox.execute program data
    (⟨after, t.held⟩, .executed outcome)
  | .check program =>
    let (after, outcome) := t.sandbox.check program
    (⟨after, t.held⟩, .checked outcome)

def issue? (t : Tenancy) : Request → Option Nat
  | .openSession program | .execute program _ | .check program =>
    (t.sandbox.openSession program).2.toOption.map Session.id
  | .run _ _ | .closeSession _ => none

def answerAll : Tenancy → List Request → Tenancy × List Answer
  | t, [] => (t, [])
  | t, request :: rest =>
    let (next, answer) := t.answer request
    let (last, answers) := next.answerAll rest
    (last, answer :: answers)

/-- The numbers that a history uses up, in the order of their use. -/
def issued : Tenancy → List Request → List Nat
  | _, [] => []
  | t, request :: rest => (t.issue? request).toList ++ issued (t.answer request).1 rest

variable {t : Tenancy} {request : Request}

theorem answer_cases (fresh : t.sandbox.nextId ∉ t.sandbox.live) (request : Request) :
    (∃ program, t.issue? request = some t.sandbox.nextId ∧
        t.answer request =
          (⟨{ t.sandbox with
                nextId := t.sandbox.nextId + 1, live := t.sandbox.nextId :: t.sandbox.live },
              ⟨t.sandbox.nextId, program⟩ :: t.held⟩,
            .opened t.sandbox.nextId)) ∨
      (∃ session ∈ t.held, t.issue? request = none ∧
        t.answer request =
          (⟨t.sandbox.closeSession session, t.held.filter (·.id != session.id)⟩,
            .closed session.id)) ∨
      (t.issue? request = some t.sandbox.nextId ∧ (t.answer request).2.Passing ∧
        (t.answer request).1 = ⟨{ t.sandbox with nextId := t.sandbox.nextId + 1 }, t.held⟩) ∨
      (t.issue? request = none ∧ (t.answer request).2.Passing ∧ (t.answer request).1 = t) := by
  cases request with
  | openSession program =>
      cases checked : t.sandbox.env.registry.check program with
      | ok _ =>
          refine .inl ⟨program, issued_of_ok checked, ?_⟩
          simp only [answer, openSession_of_ok checked]
      | error e =>
          refine .inr (.inr (.inr ⟨issued_of_error checked, ?_⟩))
          simp [answer, openSession_of_error checked, Answer.Passing]
  | run id data =>
      refine .inr (.inr (.inr ⟨rfl, ?_⟩))
      rw [answer]
      split <;> exact ⟨trivial, rfl⟩
  | closeSession id =>
      cases found : t.held.find? (·.id == id) with
      | some session =>
          have same : session.id = id := by simpa using List.find?_some found
          refine .inr (.inl ⟨session, List.mem_of_find?_eq_some found, rfl, ?_⟩)
          simp only [answer, found, same]
      | none =>
          refine .inr (.inr (.inr ⟨rfl, ?_⟩))
          simp [answer, found, Answer.Passing]
  | execute program data =>
      cases checked : t.sandbox.env.registry.check program with
      | ok _ =>
          refine .inr (.inr (.inl ⟨issued_of_ok checked, trivial, ?_⟩))
          simp only [answer, execute, openSession_of_ok checked, closeSession_opened fresh]
      | error e =>
          refine .inr (.inr (.inr ⟨issued_of_error checked, trivial, ?_⟩))
          simp only [answer, execute, openSession_of_error checked]
  | check program =>
      cases checked : t.sandbox.env.registry.check program with
      | ok _ =>
          refine .inr (.inr (.inl ⟨issued_of_ok checked, trivial, ?_⟩))
          simp only [answer, check, openSession_of_ok checked, closeSession_opened fresh]
      | error e =>
          refine .inr (.inr (.inr ⟨issued_of_error checked, trivial, ?_⟩))
          simp only [answer, check, openSession_of_error checked]

/-- The books of a sandbox: what is open and which number comes next, against the numbers that it
has given out and the answers that it has given. -/
structure Accounted (t : Tenancy) (numbers : List Nat) (answers : List Answer) : Prop where
  live : ∀ id, id ∈ t.sandbox.live ↔ .opened id ∈ answers ∧ .closed id ∉ answers
  held : t.held.map Session.id = t.sandbox.live
  distinct : t.sandbox.live.Nodup
  inOrder : numbers = List.range' 1 numbers.length
  next : t.sandbox.nextId = numbers.length + 1
  opened : ∀ id, .opened id ∈ answers → id ∈ numbers
  closed : ∀ id, .closed id ∈ answers → id ∈ numbers

variable {numbers : List Nat} {answers : List Answer}

theorem accounted_start (env : Environment) : (start env).Accounted [] [] := by
  constructor <;> simp [start, Sandbox.start]

theorem Accounted.next_not_mem (accounted : t.Accounted numbers answers) :
    t.sandbox.nextId ∉ numbers := by
  rw [accounted.next, accounted.inOrder, List.mem_range'_1, List.length_range']
  omega

theorem Accounted.fresh (accounted : t.Accounted numbers answers) :
    t.sandbox.nextId ∉ t.sandbox.live := by
  intro member
  exact accounted.next_not_mem (accounted.opened _ ((accounted.live _).mp member).1)

theorem Accounted.inOrder_concat (accounted : t.Accounted numbers answers) :
    numbers ++ [t.sandbox.nextId] = List.range' 1 (numbers ++ [t.sandbox.nextId]).length := by
  rw [List.length_append, List.length_singleton, List.range'_1_concat, ← accounted.inOrder,
    accounted.next, Nat.add_comm]

theorem Accounted.open (accounted : t.Accounted numbers answers) (program : Node) :
    Accounted
      ⟨{ t.sandbox with
          nextId := t.sandbox.nextId + 1, live := t.sandbox.nextId :: t.sandbox.live },
        ⟨t.sandbox.nextId, program⟩ :: t.held⟩
      (numbers ++ [t.sandbox.nextId]) (answers ++ [.opened t.sandbox.nextId]) where
  live := by
    intro id
    have unclosed : .closed t.sandbox.nextId ∉ answers :=
      fun member => accounted.next_not_mem (accounted.closed _ member)
    simp only [List.mem_cons, List.mem_append, accounted.live]
    grind
  held := by rw [List.map_cons, accounted.held]
  distinct := List.nodup_cons.mpr ⟨accounted.fresh, accounted.distinct⟩
  inOrder := accounted.inOrder_concat
  next := by rw [accounted.next, List.length_append, List.length_singleton]
  opened := by
    intro id member
    have := accounted.opened id
    grind
  closed := by
    intro id member
    have := accounted.closed id
    grind

theorem Accounted.close (accounted : t.Accounted numbers answers) {session : Session}
    (member : session ∈ t.held) :
    Accounted ⟨t.sandbox.closeSession session, t.held.filter (·.id != session.id)⟩ numbers
      (answers ++ [.closed session.id]) where
  live := by
    intro id
    simp only [closeSession, List.mem_filter, accounted.live]
    grind
  held := by
    rw [closeSession, ← accounted.held, List.filter_map]
    rfl
  distinct := accounted.distinct.filter _
  inOrder := accounted.inOrder
  next := accounted.next
  opened := by
    intro id member
    have := accounted.opened id
    grind
  closed := by
    have live : session.id ∈ t.sandbox.live := accounted.held ▸ List.mem_map_of_mem member
    have := accounted.opened session.id ((accounted.live _).mp live).1
    intro id closed
    have := accounted.closed id
    grind

theorem Accounted.pass (accounted : t.Accounted numbers answers) {answer : Answer}
    (passing : answer.Passing) : t.Accounted numbers (answers ++ [answer]) where
  live := by
    intro id
    rw [accounted.live]
    cases answer <;> simp_all [Answer.Passing]
  held := accounted.held
  distinct := accounted.distinct
  inOrder := accounted.inOrder
  next := accounted.next
  opened := by
    have := accounted.opened
    cases answer <;> simp_all [Answer.Passing]
  closed := by
    have := accounted.closed
    cases answer <;> simp_all [Answer.Passing]

theorem Accounted.skip (accounted : t.Accounted numbers answers) :
    Accounted ⟨{ t.sandbox with nextId := t.sandbox.nextId + 1 }, t.held⟩
      (numbers ++ [t.sandbox.nextId]) answers where
  live := accounted.live
  held := accounted.held
  distinct := accounted.distinct
  inOrder := accounted.inOrder_concat
  next := by rw [accounted.next, List.length_append, List.length_singleton]
  opened := fun id member => List.mem_append_left _ (accounted.opened id member)
  closed := fun id member => List.mem_append_left _ (accounted.closed id member)

theorem Accounted.answer (accounted : t.Accounted numbers answers) (request : Request) :
    (t.answer request).1.Accounted (numbers ++ (t.issue? request).toList)
      (answers ++ [(t.answer request).2]) := by
  rcases answer_cases accounted.fresh request with
    ⟨program, issued, answered⟩ | ⟨session, member, issued, answered⟩ |
    ⟨issued, passing, after⟩ | ⟨issued, passing, after⟩
  · rw [issued, answered]
    exact accounted.open program
  · rw [issued, answered, Option.toList_none, List.append_nil]
    exact accounted.close member
  · rw [issued, after]
    exact accounted.skip.pass passing
  · rw [issued, after, Option.toList_none, List.append_nil]
    exact accounted.pass passing

theorem Accounted.answerAll (accounted : t.Accounted numbers answers) (history : List Request) :
    (t.answerAll history).1.Accounted (numbers ++ t.issued history)
      (answers ++ (t.answerAll history).2) := by
  induction history generalizing t numbers answers with
  | nil =>
      rw [Tenancy.answerAll, issued, List.append_nil, List.append_nil]
      exact accounted
  | cons request rest ih =>
      have later := ih (accounted.answer request)
      rw [List.append_assoc, List.append_assoc] at later
      exact later

theorem live_of_passing (accounted : t.Accounted numbers answers)
    (passing : (t.answer request).2.Passing) :
    (t.answer request).1.sandbox.live = t.sandbox.live := by
  rcases answer_cases accounted.fresh request with
    ⟨program, _, answered⟩ | ⟨session, _, _, answered⟩ | ⟨_, _, after⟩ | ⟨_, _, after⟩
  · rw [answered] at passing
    cases passing
  · rw [answered] at passing
    cases passing
  · rw [after]
  · rw [after]

theorem answer_run (t : Tenancy) (id : Nat) (data : Bindings) :
    (t.answer (.run id data)).1 = t := by
  rw [answer]
  split <;> rfl

theorem answer_of_refused {program : Node} {e : SandboxError}
    (refused : (t.sandbox.openSession program).2 = .error e) (data : Bindings) :
    (t.answer (.openSession program)).1 = t ∧ (t.answer (.execute program data)).1 = t ∧
      (t.answer (.check program)).1 = t := by
  cases checked : t.sandbox.env.registry.check program with
  | ok _ =>
      rw [openSession_of_ok checked] at refused
      cases refused
  | error _ =>
      refine ⟨?_, ?_, ?_⟩
      all_goals simp only [answer, execute, check, openSession_of_error checked]

theorem Accounted.number_of_opened (accounted : t.Accounted numbers answers) {id : Nat}
    (opened : (t.answer request).2 = .opened id) : id = numbers.length + 1 := by
  rcases answer_cases accounted.fresh request with
    ⟨program, _, answered⟩ | ⟨session, _, _, answered⟩ | ⟨_, passing, _⟩ | ⟨_, passing, _⟩
  · rw [answered] at opened
    rw [← accounted.next, Answer.opened.inj opened]
  · rw [answered] at opened
    cases opened
  all_goals
    rw [opened] at passing
    cases passing

theorem length_issued_le (t : Tenancy) (history : List Request) :
    (t.issued history).length ≤ history.length := by
  induction history generalizing t with
  | nil => exact Nat.le_refl 0
  | cons request rest ih =>
      have later := ih (t.answer request).1
      have here : (t.issue? request).toList.length ≤ 1 := by
        cases t.issue? request <;> simp
      rw [issued, List.length_append, List.length_cons]
      omega

/-- After any history the books are in order, with no more numbers than there were requests.  The
next session to be opened gets the next number.  A program that is refused leaves everything as it
was, and running, executing and checking leave the open sessions as they were. -/
theorem accounted_of_history {env : Environment} {history : List Request}
    (answered : (start env).answerAll history = (t, answers)) :
    t.Accounted ((start env).issued history) answers ∧
      ((start env).issued history).length ≤ history.length ∧
      (∀ request id, (t.answer request).2 = .opened id →
        id = ((start env).issued history).length + 1) ∧
      (∀ program e, (t.sandbox.openSession program).2 = .error e → ∀ data,
        (t.answer (.openSession program)).1 = t ∧ (t.answer (.execute program data)).1 = t ∧
          (t.answer (.check program)).1 = t) ∧
      (∀ id data, (t.answer (.run id data)).1 = t) ∧
      (∀ program data, (t.answer (.execute program data)).1.sandbox.live = t.sandbox.live) ∧
      ∀ program, (t.answer (.check program)).1.sandbox.live = t.sandbox.live := by
  have accounted := (accounted_start env).answerAll history
  rw [answered] at accounted
  refine ⟨accounted, length_issued_le _ history, fun _ _ => accounted.number_of_opened,
    fun _ _ => answer_of_refused, answer_run t, fun program data => ?_, fun program => ?_⟩
  · exact live_of_passing accounted trivial
  · exact live_of_passing accounted trivial

theorem accounted_of_history_overlapping :
    ∃ env history t answers, (start env).answerAll history = (t, answers) ∧
      t.Accounted [1, 2, 3, 4] answers ∧ t.sandbox.live = [3] ∧
      (t.answer (.openSession (.literal .null))).2 = .opened 5 ∧
      (t.answer (.execute (.call "nope" []) [])).1 = t ∧
      (t.answer (.execute (.literal .null) [])).1.sandbox.live = [3] := by
  let history : List Request :=
    [.openSession (.literal .null), .execute (.call "abs" [.literal (.str "x")]) [],
      .openSession (.call "nope" []), .openSession (.call "abs" [.literal (.bool true)]),
      .closeSession 1, .check (.literal .null), .run 3 [], .closeSession 1]
  let env : Environment := ⟨Registry.empty.addFunction "abs" "math" .plain .abs, 0⟩
  have answered : (start env).answerAll history = (_, _) := rfl
  obtain ⟨accounted, _, _, refused, _, executed, _⟩ := accounted_of_history answered
  exact ⟨env, history, _, _, answered, accounted, rfl, rfl, (refused _ _ rfl []).2.1,
    (executed _ _).trans rfl⟩

end Tenancy

end Sandbox

end FlowLogic
